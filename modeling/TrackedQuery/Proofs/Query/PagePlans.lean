import TrackedQuery.Proofs.Query.Pages

/-!
# Which pages have plans

A page is asked for by two signed numbers.  It has plans if both are positive, if the number of rows
in front of it is one of 64 bits, and if no plans are stacked on the query
(`Clauses.compilePage_exact`).  The number of rows in front is the product of the integers: a
product that is too large is refused, so that no page begins where another one does.

## Strategy

* `pageOffset?_eq_some_iff`: the check of the numbers accepts exactly the pages that can be
  addressed, and answers the product.
* `Clauses.compilePage_of_fits` and `Clauses.compilePage_of_not_fits`: the outcomes.  Both plans are
  those of the query, because what they are compiled from differs from the query in the window, the
  ordering and the projection alone.
-/

namespace TrackedQuery

/-! ## Numbers of pages -/

/-- The pages that can be addressed: they are counted from 1, have at least one row, and the number
of rows in front of them is one of 64 bits. -/
def PageFits (index size : Int) : Prop :=
  1 ≤ index ∧ 1 ≤ size ∧ (index - 1) * size < UInt64.size

instance (index size : Int) : Decidable (PageFits index size) :=
  inferInstanceAs (Decidable (_ ∧ _ ∧ _))

variable {index size : Int}

/-- The product that is computed with natural numbers is the one of the integers. -/
theorem natCast_pageOffset (first : 1 ≤ index) (positive : 1 ≤ size) :
    (((index.toNat - 1) * size.toNat : Nat) : Int) = (index - 1) * size := by
  have before : ((index.toNat - 1 : Nat) : Int) = index - 1 := by omega
  have rows : (size.toNat : Int) = size := by omega
  calc (((index.toNat - 1) * size.toNat : Nat) : Int)
      = ((index.toNat - 1 : Nat) : Int) * (size.toNat : Int) := Int.natCast_mul ..
    _ = (index - 1) * size := by rw [before, rows]

/-- The check accepts the pages that can be addressed, and answers how many rows precede them. -/
theorem pageOffset?_eq_some_iff {offset : Nat} :
    pageOffset? index size = some offset ↔
      PageFits index size ∧ (offset : Int) = (index - 1) * size := by
  unfold pageOffset? PageFits
  by_cases positive : 1 ≤ index ∧ 1 ≤ size
  · have product := natCast_pageOffset positive.1 positive.2
    rw [if_neg (by simp; omega), ← product]
    by_cases addressable : (index.toNat - 1) * size.toNat < UInt64.size
    · simp only [if_pos addressable, Option.some_inj]
      omega
    · simp only [if_neg addressable, reduceCtorEq, false_iff]
      omega
  · rw [if_pos (by simp; omega)]
    simp only [reduceCtorEq, false_iff]
    omega

private theorem pageOffset?_eq_none_iff :
    pageOffset? index size = none ↔ ¬ PageFits index size := by
  rw [Option.eq_none_iff_forall_ne_some]
  constructor
  · intro refused fits
    exact refused _ (pageOffset?_eq_some_iff.mpr ⟨fits, natCast_pageOffset fits.1 fits.2.1⟩)
  · exact fun unfit offset accepted => unfit (pageOffset?_eq_some_iff.mp accepted).1

/-! ## Plans of pages -/

namespace Clauses

variable {clauses : Clauses} {context : Context} {plan : Plan}

/-- A page that cannot be addressed is refused, whatever the query is. -/
theorem compilePage_of_not_fits (unfit : ¬ PageFits index size) :
    clauses.compilePage context index size = fail (.invalidPageRequest index size) := by
  unfold compilePage
  rw [pageOffset?_eq_none_iff.mpr unfit]

/-- A query that plans are stacked on has no pages. -/
theorem compilePage_of_stacked (fits : PageFits index size) (stacked : clauses.arms ≠ []) :
    clauses.compilePage context index size = fail (.invalidStatement .countOfUnion) := by
  have offset := pageOffset?_eq_some_iff.mpr ⟨fits, natCast_pageOffset fits.1 fits.2.1⟩
  have count : clauses.compileCount context = fail (.invalidStatement .countOfUnion) := by
    unfold compileCount
    rw [if_neg (by simpa using stacked)]
  unfold compilePage
  rw [offset]
  simp only [count, fail, bind, Except.bind]

/-- Every other page has the plans of the query, one to count its rows and one with a window. -/
theorem compilePage_of_fits (compiled : clauses.compile context none none = .ok plan)
    (unstacked : clauses.arms = []) (fits : PageFits index size) :
    clauses.compilePage context index size =
      .ok ⟨plan.counting, plan.within ((index.toNat - 1) * size.toNat) size.toNat, size.toNat⟩ := by
  obtain ⟨first, positive, addressable⟩ := fits
  have product := natCast_pageOffset first positive
  have natural : clauses.compilePage context index.toNat size.toNat = _ :=
    compilePage_of_compile compiled unstacked (by omega) (by omega) (by omega)
  rwa [Int.toNat_of_nonneg (by omega), Int.toNat_of_nonneg (by omega)] at natural

/-- A page of a query that compiles has plans exactly if it can be addressed and nothing is stacked
on the query; that a page cannot be addressed is reported as such, and only then.  The plan that
loads it is the plan of the query with the window of the page, and the plan that counts is the plan
of the query with the number of rows as its projection, no ordering and no window. -/
theorem compilePage_exact (compiled : clauses.compile context none none = .ok plan)
    (index size : Int) :
    ((∃ pages, clauses.compilePage context index size = .ok pages) ↔
      PageFits index size ∧ clauses.arms = []) ∧
    (clauses.compilePage context index size = fail (.invalidPageRequest index size) ↔
      ¬ PageFits index size) ∧
    ∀ pages, clauses.compilePage context index size = .ok pages →
      (∃ offset limit : Nat, (offset : Int) = (index - 1) * size ∧ (limit : Int) = size ∧
        pages.data = { plan with window := some ⟨some offset, some limit⟩ }) ∧
      pages.count =
        { plan with projection := [⟨.countRows, .int64⟩], orderBy := [], window := none } := by
  by_cases fits : PageFits index size
  · -- a set operation refuses the count, and only once the numbers themselves are accepted
    by_cases unstacked : clauses.arms = []
    · have outcome := compilePage_of_fits compiled unstacked fits
      rw [outcome]
      refine ⟨⟨fun _ => ⟨fits, unstacked⟩, fun _ => ⟨_, rfl⟩⟩, ?_, ?_⟩
      · simp [fits, fail]
      · rintro pages ⟨⟩
        have rows : (size.toNat : Int) = size := Int.toNat_of_nonneg (by have := fits.2.1; omega)
        exact ⟨⟨_, _, natCast_pageOffset fits.1 fits.2.1, rows, rfl⟩, rfl⟩
    · rw [compilePage_of_stacked fits unstacked]
      refine ⟨?_, ?_, ?_⟩ <;> simp [fits, unstacked, fail]
  · rw [compilePage_of_not_fits fits]
    refine ⟨?_, ?_, ?_⟩ <;> simp [fits, fail]

end Clauses

namespace Example

/-- The titles of topics with many stars, in order, at most five of them. -/
def starredTopics : Clauses :=
  { Clauses.initial with
    filter := [.compare .gt (.column (.local baseAlias 2)) (.value (.int32 3))]
    orderBy := [⟨.column (.local baseAlias 1), .ascending⟩]
    limit := some 5 }

/-- Their plan. -/
def starredPlan : Plan :=
  { topicPlan with
    filter := some (.compare .gt (.column (.local baseAlias 2)) (.value (.int32 3)))
    orderBy := [⟨.column (.local baseAlias 1), .ascending⟩]
    window := some ⟨none, some 5⟩ }

/-- The third of the largest pages that can be asked for begins at the last even number of 64 bits.
The fourth one is refused. -/
theorem compilePage_exact_topics :
    (∃ pages, starredTopics.compilePage topicContext 3 9223372036854775807 = .ok pages ∧
      pages.data = { starredPlan with
        window := some ⟨some 18446744073709551614, some 9223372036854775807⟩ } ∧
      pages.count = { starredPlan with
        projection := [⟨.countRows, .int64⟩], orderBy := [], window := none }) ∧
    starredTopics.compilePage topicContext 4 9223372036854775807 =
      fail (.invalidPageRequest 4 9223372036854775807) := by
  have compiled : starredTopics.compile topicContext none none = .ok starredPlan := rfl
  obtain ⟨succeeds, -, plans⟩ := Clauses.compilePage_exact compiled 3 9223372036854775807
  obtain ⟨-, refused, -⟩ := Clauses.compilePage_exact compiled 4 9223372036854775807
  obtain ⟨pages, answered⟩ := succeeds.mpr ⟨by decide, rfl⟩
  obtain ⟨⟨offset, limit, offset_eq, limit_eq, data⟩, count⟩ := plans pages answered
  obtain rfl : offset = 18446744073709551614 := by omega
  obtain rfl : limit = 9223372036854775807 := by omega
  exact ⟨⟨pages, answered, data, count⟩, refused.mpr (by decide)⟩

end Example

end TrackedQuery
