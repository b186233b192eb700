import RecordSearch.Proofs.Attempt
import RecordSearch.Query.Compile

/-!
# What a filter asks for

A filter asks for the attribute of each of its tests, however deep the test stands.  If all these
are attributes of a record, a filter without a query is at odds with the kind of one of them, and
never with its name.
-/

namespace RecordSearch

open RecordSearch.Attempt RecordSearch.Text
open RecordSearch.Time (Instant)

namespace Filter

variable {name : String} {f : Filter} {fs : List Filter}

theorem inductionOn {motive : Filter → Prop} (f : Filter) (everything : motive .everything)
    (nothing : motive .nothing) (all : ∀ fs, (∀ f ∈ fs, motive f) → motive (.all fs))
    (any : ∀ fs, (∀ f ∈ fs, motive f) → motive (.any fs))
    (not : ∀ f, motive f → motive (.not f)) (test : ∀ name p, motive (.test name p)) :
    motive f :=
  @Filter.rec motive (fun fs => ∀ f ∈ fs, motive f) everything nothing all any not test
    (List.forall_mem_nil motive) (fun _ _ first others => List.forall_mem_cons.mpr ⟨first, others⟩) f

inductive Asks (name : String) : Filter → Prop where
  | test (p : Predicate) : Asks name (.test name p)
  | all {fs : List Filter} {f : Filter} (member : f ∈ fs) (asks : Asks name f) : Asks name (.all fs)
  | any {fs : List Filter} {f : Filter} (member : f ∈ fs) (asks : Asks name f) : Asks name (.any fs)
  | not {f : Filter} (asks : Asks name f) : Asks name (.not f)

theorem mem_mentionedIn_iff : name ∈ mentionedIn fs ↔ ∃ f ∈ fs, name ∈ f.mentioned := by
  induction fs with
  | nil => simp [mentionedIn]
  | cons f fs inductionHypothesis => simp [mentionedIn, inductionHypothesis]

theorem mem_mentioned_iff : name ∈ f.mentioned ↔ f.Asks name := by
  constructor
  · intro mentioned
    induction f using inductionOn with
    | everything | nothing =>
        rw [Filter.mentioned] at mentioned
        cases mentioned
    | all fs inductionHypothesis =>
        rw [Filter.mentioned, mem_mentionedIn_iff] at mentioned
        obtain ⟨f, member, within⟩ := mentioned
        exact .all member (inductionHypothesis f member within)
    | any fs inductionHypothesis =>
        rw [Filter.mentioned, mem_mentionedIn_iff] at mentioned
        obtain ⟨f, member, within⟩ := mentioned
        exact .any member (inductionHypothesis f member within)
    | not f inductionHypothesis =>
        rw [Filter.mentioned] at mentioned
        exact .not (inductionHypothesis mentioned)
    | test other p =>
        rw [Filter.mentioned, List.mem_singleton] at mentioned
        subst mentioned
        exact .test p
  · intro asks
    induction asks with
    | test p =>
        rw [Filter.mentioned]
        exact List.mem_singleton_self name
    | all member _ inductionHypothesis =>
        rw [Filter.mentioned]
        exact mem_mentionedIn_iff.mpr ⟨_, member, inductionHypothesis⟩
    | any member _ inductionHypothesis =>
        rw [Filter.mentioned]
        exact mem_mentionedIn_iff.mpr ⟨_, member, inductionHypothesis⟩
    | not _ inductionHypothesis =>
        rw [Filter.mentioned]
        exact inductionHypothesis

end Filter

/-- A fault that does not lie in the name of an attribute. -/
def CompileFault.OfRegistered (fault : CompileFault) : Prop := ∀ name, fault ≠ .unregistered name

namespace Query

variable {kind : Kind} {a : Attribute} {fault : CompileFault} {registry : Registry}

theorem ofFilters_eq_mapM (fs : List Filter) :
    ofFilters registry fs = fs.mapM (ofFilter registry) := by
  induction fs with
  | nil => rfl
  | cons f fs inductionHypothesis => rw [List.mapM_cons, ofFilters, inductionHypothesis]

section Faults

variable {v : Literal} {lower upper : Bound Literal} {text : String}

theorem ofRegistered_of_ofValue (failed : ofValue kind a v = .error fault) :
    fault.OfRegistered := by
  cases kind with
  | keyword | text => cases failed
  | date =>
      rw [ofValue] at failed
      cases read : v.asInstant? with
      | some at' => simp [read] at failed
      | none =>
          simp only [read] at failed
          cases failed
          exact nofun

theorem ofRegistered_of_boundSeconds {bound : Bound Literal}
    (failed : boundSeconds a bound = .error fault) : fault.OfRegistered := by
  cases bound with
  | unbounded => cases failed
  | included v | excluded v =>
      rw [boundSeconds] at failed
      cases read : v.asInstant? with
      | some at' => simp [read] at failed
      | none =>
          simp only [read] at failed
          cases failed
          exact nofun

theorem ofRegistered_of_ofRange (failed : ofRange kind a lower upper = .error fault) :
    fault.OfRegistered := by
  cases kind with
  | keyword => cases failed
  | text =>
      cases failed
      exact nofun
  | date =>
      rcases bind_eq_error failed with first | ⟨lower', -, later⟩
      · exact ofRegistered_of_boundSeconds first
      · rcases bind_eq_error later with second | ⟨upper', -, done⟩
        · exact ofRegistered_of_boundSeconds second
        · cases done

theorem ofRegistered_of_ofPeriod {lower upper : Bound Instant}
    (failed : ofPeriod kind a lower upper = .error fault) : fault.OfRegistered := by
  cases kind with
  | date => cases failed
  | keyword | text =>
      cases failed
      exact nofun

theorem ofPattern_eq_error {p : Pattern} {fault' : CompileFault}
    (failed : ofPattern a p fault' = .error fault) : fault = fault' := by
  unfold ofPattern at failed
  split at failed
  · exact (Except.error.inj failed).symm
  · cases failed

theorem ofRegistered_of_ofProsePattern (failed : ofProsePattern a text = .error fault) :
    fault.OfRegistered := by
  unfold ofProsePattern at failed
  extract_lets analysis found at failed
  split at failed
  · cases failed
  · split at failed
    · next fault' queried =>
        cases failed
        obtain ⟨c, -, failed⟩ := mapM_eq_error queried
        unfold Cluster.query at failed
        split at failed
        · cases failed
        · rw [ofPattern_eq_error failed]
          exact nofun
    · cases failed
    · cases failed

theorem ofRegistered_of_ofLike {ignoreCase : Bool}
    (failed : ofLike kind a text ignoreCase = .error fault) : fault.OfRegistered := by
  cases kind with
  | text => exact ofRegistered_of_ofProsePattern failed
  | keyword =>
      rw [ofPattern_eq_error failed]
      exact nofun
  | date =>
      cases failed
      exact nofun

theorem ofRegistered_of_ofPredicate {p : Predicate} (failed : ofPredicate kind a p = .error fault) :
    fault.OfRegistered := by
  cases p with
  | compare op v =>
      cases op with
      | eq => exact ofRegistered_of_ofValue failed
      | notEq => exact ofRegistered_of_ofValue (map_eq_error failed)
      | lt | le | gt | ge => exact ofRegistered_of_ofRange failed
  | like text ignoreCase => exact ofRegistered_of_ofLike failed
  | oneOf values =>
      obtain ⟨v, -, failed'⟩ := mapM_eq_error (map_eq_error failed)
      exact ofRegistered_of_ofValue failed'
  | between lower upper => exact ofRegistered_of_ofRange failed
  | isNull => cases failed
  | before at' | after at' | during start stop => exact ofRegistered_of_ofPeriod failed

theorem ofRegistered_of_ofFilter {f : Filter} (failed : ofFilter registry f = .error fault)
    (known : ∀ name, f.Asks name → ∃ a, Attribute.ofName? name = some a) :
    fault.OfRegistered := by
  induction f using Filter.inductionOn with
  | everything | nothing => cases failed
  | all fs inductionHypothesis =>
      rw [ofFilter, ofFilters_eq_mapM] at failed
      obtain ⟨f, member, failed'⟩ := mapM_eq_error (map_eq_error failed)
      exact inductionHypothesis f member failed' fun name asks => known name (.all member asks)
  | any fs inductionHypothesis =>
      rw [ofFilter, ofFilters_eq_mapM] at failed
      obtain ⟨f, member, failed'⟩ := mapM_eq_error (map_eq_error failed)
      exact inductionHypothesis f member failed' fun name asks => known name (.any member asks)
  | not f inductionHypothesis =>
      exact inductionHypothesis (map_eq_error failed) fun name asks => known name (.not asks)
  | test name p =>
      obtain ⟨a, named⟩ := known name (.test p)
      rw [ofFilter, ofTest, named] at failed
      exact ofRegistered_of_ofPredicate failed

end Faults

end Query

end RecordSearch
