import RecordSearch.Proofs.Filter.Made

/-!
# What the answer to a query depends on

The query of a filter looks at the attributes that the filter asks for and at no others, through
every connective and negation, so that it cannot tell two records apart that agree on these.
-/

namespace RecordSearch

namespace Query

inductive Within (seen : Attribute → Prop) : Query → Prop where
  | all : Within seen .all
  | nothing : Within seen .nothing
  | boolean {must should mustNot : List Query} (musts : ∀ q ∈ must, Within seen q)
      (shoulds : ∀ q ∈ should, Within seen q) (mustNots : ∀ q ∈ mustNot, Within seen q) :
      Within seen (.boolean must should mustNot)
  | term {a : Attribute} (word : String) (sees : seen a) : Within seen (.term a word)
  | phrase {a : Attribute} (words : List (Nat × String)) (sees : seen a) :
      Within seen (.phrase a words)
  | keywords {a : Attribute} (lower upper : Bound String) (sees : seen a) :
      Within seen (.keywords a lower upper)
  | dates {a : Attribute} (lower upper : Bound Int) (sees : seen a) :
      Within seen (.dates a lower upper)
  | pattern {a : Attribute} (p : Pattern) (sees : seen a) : Within seen (.pattern a p)

variable {seen : Attribute → Prop} {q : Query} {registry : Registry}

section Matches

variable {kinds : Attribute → Kind} {d d' : Stored} {qs : List Query}

theorem everyMatches_congr (each : ∀ q ∈ qs, q.matches' kinds d = q.matches' kinds d') :
    everyMatches kinds d qs = everyMatches kinds d' qs := by
  induction qs with
  | nil => rfl
  | cons q qs inductionHypothesis =>
      obtain ⟨first, others⟩ := List.forall_mem_cons.mp each
      rw [everyMatches, everyMatches, first, inductionHypothesis others]

theorem someMatches_congr (each : ∀ q ∈ qs, q.matches' kinds d = q.matches' kinds d') :
    someMatches kinds d qs = someMatches kinds d' qs := by
  induction qs with
  | nil => rfl
  | cons q qs inductionHypothesis =>
      obtain ⟨first, others⟩ := List.forall_mem_cons.mp each
      rw [someMatches, someMatches, first, inductionHypothesis others]

/-- A query cannot tell records apart that agree on all it looks at. -/
theorem Within.matches'_congr (within : q.Within seen)
    (same : ∀ a, seen a → d.field? a = d'.field? a) :
    q.matches' kinds d = q.matches' kinds d' := by
  have terms {a : Attribute} (sees : seen a) : d.terms kinds a = d'.terms kinds a := by
    rw [Stored.terms, Stored.terms, Stored.text?, Stored.text?, same a sees]
  have seconds {a : Attribute} (sees : seen a) : d.seconds? a = d'.seconds? a := by
    rw [Stored.seconds?, Stored.seconds?, same a sees]
  induction within with
  | all => rw [matches', matches']
  | nothing => rw [matches', matches']
  | boolean _ _ _ musts shoulds mustNots =>
      rw [matches', matches', everyMatches_congr musts, someMatches_congr shoulds,
        someMatches_congr mustNots]
  | term word sees => rw [matches', matches', terms sees]
  | phrase words sees => rw [matches', matches', terms sees]
  | keywords lower upper sees => rw [matches', matches', terms sees]
  | dates lower upper sees => rw [matches', matches', seconds sees]
  | pattern p sees => rw [matches', matches', terms sees]

end Matches

theorem Made.within (made : q.Made seen) : q.Within seen := by
  induction made with
  | all => exact .all
  | nothing => exact .nothing
  | boolean _ _ _ musts shoulds mustNots => exact .boolean musts shoulds mustNots
  | term word asks => exact .term word asks
  | phrase asks _ => exact .phrase _ asks
  | keywords lower upper asks => exact .keywords lower upper asks
  | dates lower upper asks => exact .dates lower upper asks
  | pattern asks _ => exact .pattern _ asks

theorem within_ofFilter {f : Filter} (compiled : ofFilter registry f = .ok q)
    (sees : ∀ a, f.Asks a.name → seen a) : q.Within seen :=
  (made_ofFilter compiled sees).within

end Query

end RecordSearch
