import TrackedQuery.Database.Connection
import TrackedQuery.Instance

/-!
# An example: blogs

The entities of a small publishing system.  Between them they have a simple and a composite key,
both kinds of delete marks, and navigations of every direction, one of them over a mapping.
-/

namespace TrackedQuery.Example

/-- A column that is always present. -/
def required (name : String) (ty : Ty) : Column := ⟨name, none, ty, false, false⟩

/-- A column of the key. -/
def key (name : String) (ty : Ty) : Column := ⟨name, none, ty, false, true⟩

/-- A column that may be absent. -/
def optional (name : String) (ty : Ty) : Column := ⟨name, none, ty, true, false⟩

/-- Blogs belong to a topic, have comments and share tags. -/
def blog : Entity :=
  { Entity.named "Blog" with
    columns :=
      [key "id" .string, required "title" .string, optional "content" .string,
        required "star" .int32, required "score" .float, required "status" .int32,
        required "topic_id" .string, required "deleted" .bool]
    navigations :=
      [⟨"topic", "Topic", .manyToOne, "topic_id", "id"⟩,
        ⟨"comments", "Comment", .oneToMany, "id", "blog_id"⟩,
        ⟨"tags", "Tag", .manyToMany ⟨"BlogTag", "blog_id", "tag_id"⟩, "id", "id"⟩]
    logicalDelete := some ⟨"deleted", .boolean⟩ }

/-- Topics have blogs, and perhaps an author. -/
def topic : Entity :=
  { Entity.named "Topic" with
    table := "t_topic"
    columns :=
      [key "id" .string, required "title" .string, required "stars" .int32,
        optional "author_id" .int64]
    navigations :=
      [⟨"blogs", "Blog", .oneToMany, "id", "topic_id"⟩,
        ⟨"author", "SysUser", .manyToOne, "author_id", "id"⟩] }

/-- Comments belong to a blog. -/
def comment : Entity :=
  { Entity.named "Comment" with
    columns := [key "id" .string, required "blog_id" .string, required "content" .string]
    navigations := [⟨"blog", "Blog", .manyToOne, "blog_id", "id"⟩] }

/-- Tags have a name. -/
def tag : Entity :=
  { Entity.named "Tag" with columns := [key "id" .string, required "name" .string] }

/-- Which blog has which tag. -/
def blogTag : Entity :=
  { Entity.named "BlogTag" with
    columns := [key "blog_id" .string, key "tag_id" .string, required "weight" .int32] }

/-- Users are deleted at a point in time. -/
def user : Entity :=
  { Entity.named "SysUser" with
    columns := [key "id" .int64, required "name" .string, optional "deleted_at" .int64]
    logicalDelete := some ⟨"deleted_at", .timestamp⟩ }

/-- All entities of the example. -/
def entities : List Entity := [blog, topic, comment, tag, blogTag, user]

/-- The types that their rows are loaded as. -/
def types : List EntityType := entities.map fun entity => .ofEntity entity.name entity

/-- A connection to a database that stores them. -/
def connection : Connection := ⟨⟨entities⟩, .standard, 0⟩

end TrackedQuery.Example
