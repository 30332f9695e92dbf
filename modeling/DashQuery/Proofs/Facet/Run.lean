import DashQuery.Proofs.Facet.Compile
import DashQuery.Proofs.Failure
import DashQuery.Proofs.Ordered

/-!
# Computing several facets

`Facets.compute` takes its targets in order: it compiles the facet of each, runs the
statement and reads the rows, and stops at the first of these steps that fails.  A
run is described by the facets that were computed (`FacetRun`) and, if it stopped, by
the reason (`Facets.Stops`); both say which statements were run for them.

Where the rows depend on the statement's text and parameters alone, a facet does not
depend on the others, and the table of facets is the same for any list of the same
targets.

## Key results

- `FacetValue.ofRows_eq_ok_iff`, `FacetValue.ofRows_eq_error_iff`: when rows are read
- `Facets.computeOne_cases`, `Facets.computeFrom_cases`: what one facet and what a run can come to
- `Facets.compute_eq_ok_iff`: the facets of a backend that answers by text and parameters
- `Facets.Completed`, `Facets.Stopped`, `Facets.Independent`: what a run is shown to come to
- `Facets.compute_run`: what a run computes, what it runs, and when facets are independent
-/

namespace DashQuery

/-! ## Reading rows -/

namespace FacetValue

/-- The value says what the row holds: its count, and its value or null if it has none. -/
def Reads (row : Row) (v : FacetValue) : Prop :=
  Json.member? countAlias row = some (.int v.count) ∧
    v.value = (Json.member? valueAlias row).getD .null

/-- What is wrong with a row of the facet of `target` that no value can be read from. -/
def noCount (target : String) : QueryError :=
  .executionFailed ("facet row for '" ++ target ++ "' has no count")

variable {target : String} {row : Row} {rows : List Row} {v : FacetValue} {e : QueryError}

/-- A count is an integer that is not negative. -/
theorem countOf?_eq_some_iff {j : Option Json} {n : Nat} :
    countOf? j = some n ↔ j = some (.int n) := by
  unfold countOf?
  split
  · next k =>
    -- an integer, of either sign
    simp only [Option.ite_none_right_eq_some, Option.some.injEq, Json.int.injEq]
    omega
  · next hnot =>
    -- anything else is no count
    simp only [reduceCtorEq, false_iff]
    rintro rfl
    exact hnot n rfl

/-- A row is read by its two fields. -/
theorem ofRow_eq_ok_iff : ofRow target row = .ok v ↔ Reads row v := by
  obtain ⟨value, count⟩ := v
  unfold ofRow Reads
  rw [← countOf?_eq_some_iff]
  cases countOf? (Json.member? countAlias row) with
  | none => simp
  | some n => simp [eq_comm, and_comm]

/-- A row is refused exactly if it has no count, and then for that reason. -/
theorem ofRow_eq_error_iff :
    ofRow target row = .error e ↔ (∀ v, ¬ Reads row v) ∧ e = noCount target := by
  have hok : ∀ v, Reads row v ↔ ofRow target row = .ok v := fun _ => ofRow_eq_ok_iff.symm
  simp only [hok]
  unfold ofRow
  cases countOf? (Json.member? countAlias row) with
  | none => simp [noCount, eq_comm]
  | some n => simp

/-- Rows are read one by one, up to the first that is no facet value. -/
theorem ofRows_eq_mapM (target : String) (rows : List Row) :
    ofRows target rows = rows.mapM (ofRow target) := by
  induction rows with
  | nil => rfl
  | cons row rows ih => simp only [ofRows, List.mapM_cons, ih]

/-- Rows are read one by one, in order. -/
theorem ofRows_eq_ok_iff {values : List FacetValue} :
    ofRows target rows = .ok values ↔ List.Forall₂ Reads rows values := by
  rw [ofRows_eq_mapM, mapM_eq_ok_iff]
  simp only [ofRow_eq_ok_iff]

/-- Rows are refused for the first one without a count. -/
theorem ofRows_eq_error_iff :
    ofRows target rows = .error e ↔ e = noCount target ∧ ∃ before row after,
      rows = before ++ row :: after ∧ (∀ r ∈ before, ∃ v, Reads r v) ∧ ∀ v, ¬ Reads row v := by
  rw [ofRows_eq_mapM, mapM_eq_error_iff]
  simp only [ofRow_eq_ok_iff, ofRow_eq_error_iff]
  constructor
  · rintro ⟨before, row, after, hrows, hbefore, hrow, he⟩
    exact ⟨he, before, row, after, hrows, hbefore, hrow⟩
  · rintro ⟨he, before, row, after, hrows, hbefore, hrow⟩
    exact ⟨before, row, after, hrows, hbefore, hrow, he⟩

end FacetValue

/-! ## How a run goes -/

/-- A facet that was computed: its statement, the rows that this gave, and their values. -/
structure FacetRun where
  target : String
  statement : SelectStatement
  rows : List Row
  values : List FacetValue

/-- The facet as it is written into the table. -/
def FacetRun.entry (run : FacetRun) : String × List FacetValue := (run.target, run.values)

section

variable {σ : Type} (settings : Settings) (catalog : Catalog) (backend : Backend σ) (base : Query)

/-- The facet compiles to the statement, the backend answers it with the rows, and every row is
read. -/
structure FacetRun.Succeeds (run : FacetRun) (state next : σ) : Prop where
  compiles : base.compileFacet settings catalog run.target = .ok run.statement
  answers : backend.run run.statement state = (.ok run.rows, next)
  reads : List.Forall₂ FacetValue.Reads run.rows run.values

namespace Facets

/-- Facets are computed one after another. -/
inductive Completes : List FacetRun → σ → σ → Prop
  | nil (state : σ) : Completes [] state state
  | cons {run : FacetRun} {runs : List FacetRun} {state mid next : σ}
      (h : run.Succeeds settings catalog backend base state mid) (rest : Completes runs mid next) :
      Completes (run :: runs) state next

/-- Why no facet of a target comes about, with the statements that are run before this shows. -/
inductive Stops (target : String) (state : σ) : List SelectStatement → QueryError → σ → Prop
  /-- The facet does not compile, so nothing is run. -/
  | refused {e : QueryError} (h : base.compileFacet settings catalog target = .error e) :
      Stops target state [] e state
  /-- The backend fails. -/
  | failed {s : SelectStatement} {cause : String} {next : σ}
      (h : base.compileFacet settings catalog target = .ok s)
      (hrun : backend.run s state = (.error cause, next)) :
      Stops target state [s] (.executionFailed cause) next
  /-- A row behind rows that are read has no count. -/
  | unreadable {s : SelectStatement} {before after : List Row} {row : Row} {next : σ}
      (h : base.compileFacet settings catalog target = .ok s)
      (hrun : backend.run s state = (.ok (before ++ row :: after), next))
      (hbefore : ∀ r ∈ before, ∃ v, FacetValue.Reads r v) (hrow : ∀ v, ¬ FacetValue.Reads row v) :
      Stops target state [s] (FacetValue.noCount target) next

/-- All facets were computed: `runs` are what was done for the targets, and `facets` is the table
that came of it. -/
structure Completed (targets : List String) (state : σ) (runs : List FacetRun) (facets : Facets)
    (next : σ) : Prop where
  /-- Each run starts in the state that the one before it leaves. -/
  completes : Completes settings catalog backend base runs state next
  /-- There is a run for each target, in order and with repeats. -/
  targets_eq : runs.map FacetRun.target = targets
  /-- The outcome is the table, and the state is the one behind the last run. -/
  outcome : compute settings catalog backend base targets state = (.ok facets, next)
  /-- What the backend is asked are the statements of the runs, in order. -/
  recorded : compute settings catalog backend.recorded base targets (state, []) =
    (.ok facets, next, runs.map FacetRun.statement)
  /-- No target stands in the table twice. -/
  nodup : (facets.map Prod.fst).Nodup
  /-- The table holds every target and nothing else. -/
  mem_iff : ∀ target, target ∈ facets.map Prod.fst ↔ target ∈ targets
  /-- The table holds what the last run for a target gave. -/
  lookup_last : ∀ before run after, runs = before ++ run :: after →
    (∀ later ∈ after, later.target ≠ run.target) → facets.lookup run.target = some run.values
  /-- The values of a run say what its rows hold, one by one. -/
  reads : ∀ run ∈ runs, List.Forall₂ FacetValue.Reads run.rows run.values

/-- The computation stopped at `target` with the error `e`: `runs` are what was done for the targets
before it, and `calls` the statements that were run for it. -/
structure Stopped (targets : List String) (state : σ) (runs : List FacetRun) (mid : σ)
    (target : String) (rest : List String) (calls : List SelectStatement) (e : QueryError)
    (next : σ) : Prop where
  /-- The runs before the target succeed and leave the state `mid`. -/
  completes : Completes settings catalog backend base runs state mid
  /-- They are those for the targets before it; nothing is done for the `rest`. -/
  targets_eq : targets = runs.map FacetRun.target ++ target :: rest
  /-- There is a reason why the target has no facet. -/
  stops : Stops settings catalog backend base target mid calls e next
  /-- The outcome is the error, without a table. -/
  outcome : compute settings catalog backend base targets state = (.error e, next)
  /-- What the backend is asked are the statements of the runs and those of the target. -/
  recorded : compute settings catalog backend.recorded base targets (state, []) =
    (.error e, next, runs.map FacetRun.statement ++ calls)

/-- No facet of the table depends on the other targets. -/
structure Independent (targets : List String) (facets : Facets) : Prop where
  /-- The facet of a target is the one that is computed for it alone, in whatever state. -/
  alone : ∀ target ∈ targets, ∀ other, ∃ values, facets.lookup target = some values ∧
    (compute settings catalog backend base [target] other).1 = .ok [(target, values)]
  /-- Any list of the same targets gives the same table, in whatever state. -/
  same_table : ∀ others, (∀ target, target ∈ others ↔ target ∈ targets) → ∀ other,
    (compute settings catalog backend base others other).1 = .ok facets

end Facets

end

namespace Facets

variable {σ : Type} {settings : Settings} {catalog : Catalog} {backend : Backend σ} {base : Query}

/-- Every facet of a completed run was computed in some state. -/
theorem Completes.succeeds {runs : List FacetRun} {state next : σ}
    (h : Completes settings catalog backend base runs state next) :
    ∀ run ∈ runs, ∃ before after, run.Succeeds settings catalog backend base before after := by
  induction h with
  | nil state => exact List.forall_mem_nil _
  | cons hrun _ ih => exact List.forall_mem_cons.mpr ⟨⟨_, _, hrun⟩, ih⟩

variable (settings catalog backend base)

/-- One facet is computed, or there is a reason why not; the statements that are run are added to
the record. -/
theorem computeOne_cases (target : String) (state : σ) (log : List SelectStatement) :
    (∃ (run : FacetRun) (next : σ), run.target = target ∧
      run.Succeeds settings catalog backend base state next ∧
      computeOne settings catalog backend.recorded base target (state, log) =
        (.ok run.values, next, log ++ [run.statement])) ∨
    ∃ calls e next, Stops settings catalog backend base target state calls e next ∧
      computeOne settings catalog backend.recorded base target (state, log) =
        (.error e, next, log ++ calls) := by
  unfold computeOne
  cases hc : base.compileFacet settings catalog target with
  -- the facet does not compile, and nothing is run
  | error e => exact .inr ⟨[], e, state, .refused hc, by rw [List.append_nil]⟩
  | ok s =>
    rcases hrun : backend.run s state with ⟨answer, next⟩
    simp only [Backend.execute, Backend.recorded, hrun]
    cases answer with
    -- the backend refuses the statement
    | error cause => exact .inr ⟨[s], _, next, .failed hc hrun, rfl⟩
    | ok rows =>
      cases hread : FacetValue.ofRows target rows with
      | ok values =>
        exact .inl ⟨⟨target, s, rows, values⟩, next, rfl,
          ⟨hc, hrun, FacetValue.ofRows_eq_ok_iff.mp hread⟩, by simp only [hread]⟩
      | error e =>
        -- the answer has a row without a count
        obtain ⟨rfl, before, row, after, rfl, hbefore, hrow⟩ :=
          FacetValue.ofRows_eq_error_iff.mp hread
        exact .inr ⟨[s], _, next, .unreadable hc hrun hbefore hrow, by simp only [hread]⟩

/-- A run computes all its facets and writes them into the table in order, or it stops at the first
target for which there is a reason.  The induction is on the targets; table and record are those
that the targets before leave behind. -/
theorem computeFrom_cases (targets : List String) (facets : Facets) (state : σ)
    (log : List SelectStatement) :
    (∃ runs next, Completes settings catalog backend base runs state next ∧
      runs.map FacetRun.target = targets ∧
      computeFrom settings catalog backend.recorded base facets targets (state, log) =
        (.ok ((runs.map FacetRun.entry).foldl (fun table e => Ordered.put e.1 e.2 table) facets),
          next, log ++ runs.map FacetRun.statement)) ∨
    ∃ runs target rest mid calls e next, Completes settings catalog backend base runs state mid ∧
      targets = runs.map FacetRun.target ++ target :: rest ∧
      Stops settings catalog backend base target mid calls e next ∧
      computeFrom settings catalog backend.recorded base facets targets (state, log) =
        (.error e, next, log ++ runs.map FacetRun.statement ++ calls) := by
  induction targets generalizing facets state log with
  | nil => exact .inl ⟨[], state, .nil state, rfl, by simp [computeFrom]⟩
  | cons target targets ih =>
    rcases computeOne_cases settings catalog backend base target state log with
      -- the first target is computed, or the run stops there
      ⟨run, mid, rfl, hrun, hone⟩ | ⟨calls, e, next, hstops, hone⟩
    · rcases ih (Ordered.put run.target run.values facets) mid (log ++ [run.statement]) with
        ⟨runs, next, hruns, rfl, hrest⟩ |
        ⟨runs, stop, rest, last, calls, e, next, hruns, rfl, hs, hrest⟩
      · -- all the others are computed as well
        refine .inl ⟨run :: runs, next, .cons hrun hruns, rfl, ?_⟩
        simp only [computeFrom, hone, hrest]
        simp [FacetRun.entry]
      · -- the run stops further on
        refine .inr ⟨run :: runs, stop, rest, last, calls, e, next, .cons hrun hruns, rfl, hs, ?_⟩
        simp only [computeFrom, hone, hrest]
        simp
    · -- nothing was computed before this target, so the record holds its statements only
      refine .inr ⟨[], target, targets, state, calls, e, next, .nil state, rfl, hstops, ?_⟩
      simp only [computeFrom, hone]
      simp

/-- Keeping a record of the statements changes nothing else. -/
theorem computeOne_recorded (target : String) (state : σ) (log : List SelectStatement) :
    computeOne settings catalog backend base target state =
      ((computeOne settings catalog backend.recorded base target (state, log)).1,
        (computeOne settings catalog backend.recorded base target (state, log)).2.1) := by
  unfold computeOne
  cases base.compileFacet settings catalog target with
  | error e => rfl
  | ok s =>
    rcases hrun : backend.run s state with ⟨_ | rows, next⟩
    all_goals simp only [Backend.execute, Backend.recorded, hrun]

/-- Recording the statements changes nothing in a run. -/
theorem computeFrom_recorded (facets : Facets) (targets : List String) (state : σ)
    (log : List SelectStatement) :
    computeFrom settings catalog backend base facets targets state =
      ((computeFrom settings catalog backend.recorded base facets targets (state, log)).1,
        (computeFrom settings catalog backend.recorded base facets targets (state, log)).2.1) := by
  induction targets generalizing facets state log with
  | nil => rfl
  | cons target targets ih =>
    simp only [computeFrom]
    -- one facet, and then the others with what the table and the record have become
    rw [computeOne_recorded settings catalog backend base target state log]
    rcases computeOne settings catalog backend.recorded base target (state, log) with
      ⟨_ | values, next, log'⟩
    · rfl
    · exact ih (Ordered.put target values facets) next log'

end Facets

/-! ## Facets that depend on their statement alone -/

/-- What the backend answers depends on the text and the parameters of the statement alone. -/
def Backend.AnswersBy {σ : Type} (backend : Backend σ)
    (answer : String → List Param → Except String (List Row)) : Prop :=
  ∀ s state, (backend.run s state).1 = answer s.text s.params

namespace Facets

variable {σ : Type} {settings : Settings} {catalog : Catalog} {backend : Backend σ} {base : Query}
  {answer : String → List Param → Except String (List Row)} {targets : List String}
  {facets : Facets}

/-- The facet of a column over a backend that answers by text and parameters. -/
def facetBy (settings : Settings) (catalog : Catalog) (base : Query)
    (answer : String → List Param → Except String (List Row)) (target : String) :
    Except QueryError (List FacetValue) := do
  let s ← base.compileFacet settings catalog target
  match answer s.text s.params with
  | .ok rows => FacetValue.ofRows target rows
  | .error cause => .error (.executionFailed cause)

/-- Over such a backend the values of one facet do not depend on its state. -/
theorem computeOne_fst (h : backend.AnswersBy answer) (target : String) (state : σ) :
    (computeOne settings catalog backend base target state).1 =
      facetBy settings catalog base answer target := by
  unfold computeOne facetBy
  cases base.compileFacet settings catalog target with
  | error e => rfl
  | ok s =>
    have hanswer := h s state
    rcases hrun : backend.run s state with ⟨_ | rows, next⟩
    all_goals
      rw [hrun] at hanswer
      simp only [Backend.execute, hrun, bind, Except.bind, ← hanswer]

/-- The facets are computed each by itself and written in the order of the targets. -/
theorem computeFrom_eq_ok_iff (h : backend.AnswersBy answer) (table : Facets) (state : σ) :
    (computeFrom settings catalog backend base table targets state).1 = .ok facets ↔
      ∃ values, targets.mapM (facetBy settings catalog base answer) = .ok values ∧
        facets = (targets.zip values).foldl (fun table e => Ordered.put e.1 e.2 table) table := by
  induction targets generalizing table state with
  | nil =>
    simp only [computeFrom, List.mapM_nil, pure_eq_ok_iff, exists_eq_left, List.zip_nil_left,
      List.foldl_nil]
    exact ⟨fun heq => (Except.ok.inj heq).symm, fun heq => heq ▸ rfl⟩
  | cons target targets ih =>
    have hone : (computeOne settings catalog backend base target state).1 = _ :=
      computeOne_fst h target state
    simp only [computeFrom, List.mapM_cons, bind_eq_ok_iff, pure_eq_ok_iff, ← hone]
    rcases computeOne settings catalog backend base target state with ⟨_ | values, next⟩
    -- the first facet fails, and so does the list of them
    · simp
    -- the first facet is there, and the others follow from the state behind it
    · simp only [ih, Except.ok.injEq, exists_eq_left']
      constructor
      · rintro ⟨rest, hrest, rfl⟩
        exact ⟨values :: rest, ⟨rest, hrest, rfl⟩, rfl⟩
      · rintro ⟨_, ⟨rest, hrest, rfl⟩, rfl⟩
        exact ⟨rest, hrest, rfl⟩

/-- All facets succeed exactly if each one does by itself; the table then holds the facets of the
targets, which says nothing about the order or the number of the targets. -/
theorem compute_eq_ok_iff (h : backend.AnswersBy answer) (state : σ) :
    (compute settings catalog backend base targets state).1 = .ok facets ↔
      (∀ target ∈ targets, ∃ values, facetBy settings catalog base answer target = .ok values) ∧
        Ordered.Sorted facets ∧ ∀ target values, facets.lookup target = some values ↔
          target ∈ targets ∧ facetBy settings catalog base answer target = .ok values := by
  -- what the table of computed facets holds, whichever way the equivalence is read
  have htable : ∀ {values}, targets.mapM (facetBy settings catalog base answer) = .ok values →
      ∀ target vs, (Ordered.ofList (targets.zip values)).lookup target = some vs ↔
        target ∈ targets ∧ facetBy settings catalog base answer target = .ok vs := by
    intro values hvalues target vs
    have hall := mapM_eq_ok_iff.mp hvalues
    rw [Ordered.lookup_ofList_eq_some_iff
      (fun t vs => facetBy settings catalog base answer t = .ok vs) (fun e he => ?_)
      fun hv hv' => Except.ok.inj (hv.symm.trans hv'),
      List.map_fst_zip (Nat.le_of_eq hall.length_eq)]
    exact List.forall₂_zip hall he
  rw [compute, computeFrom_eq_ok_iff h]
  constructor
  · rintro ⟨values, hvalues, rfl⟩
    exact ⟨exists_mapM_eq_ok_iff.mp ⟨values, hvalues⟩, Ordered.sorted_ofList _, htable hvalues⟩
  · -- sorted tables with the same lookups are the same
    rintro ⟨heach, hsorted, hlookup⟩
    obtain ⟨values, hvalues⟩ := exists_mapM_eq_ok_iff.mpr heach
    refine ⟨values, hvalues, Ordered.ext hsorted (Ordered.sorted_ofList _) fun target => ?_⟩
    exact Option.ext fun vs => (hlookup target vs).trans (htable hvalues target vs).symm

/-- The facet of a target is the one that was computed for it last. -/
theorem lookup_last {runs before after : List FacetRun} {run : FacetRun}
    (hruns : runs = before ++ run :: after) (hlast : ∀ later ∈ after, later.target ≠ run.target) :
    (Ordered.ofList (runs.map FacetRun.entry)).lookup run.target = some run.values := by
  rw [Ordered.lookup_ofList, List.lookup_eq_some_iff]
  refine ⟨(after.map FacetRun.entry).reverse, (before.map FacetRun.entry).reverse, ?_, ?_⟩
  · rw [hruns]
    simp [FacetRun.entry]
  · intro e he
    obtain ⟨later, hlater, rfl⟩ := List.mem_map.mp (List.mem_reverse.mp he)
    exact bne_iff_ne.mpr (hlast later hlater).symm

/-- A run over targets comes to its end or stops. -/
theorem completed_or_stopped (settings : Settings) (catalog : Catalog) (backend : Backend σ)
    (base : Query) (targets : List String) (state : σ) :
    (∃ runs facets next,
      Completed settings catalog backend base targets state runs facets next) ∨
    ∃ runs mid target rest calls e next,
      Stopped settings catalog backend base targets state runs mid target rest calls e next := by
  have hplain := computeFrom_recorded settings catalog backend base [] targets state []
  rcases computeFrom_cases settings catalog backend base targets [] state [] with
    ⟨runs, next, hruns, rfl, hrun⟩ |
    ⟨runs, target, rest, mid, calls, e, next, hruns, ht, hs, hrun⟩
  · -- all facets are computed: the table is that of the entries
    rw [hrun] at hplain
    refine .inl ⟨runs, Ordered.ofList (runs.map FacetRun.entry), next, hruns, rfl, hplain, hrun,
      Ordered.nodup_keys (Ordered.sorted_ofList _), fun target => ?_,
      fun before run after => lookup_last, fun run hmem => ?_⟩
    · rw [Ordered.mem_keys_ofList_iff, List.map_map]
      rfl
    · obtain ⟨_, _, hrun⟩ := hruns.succeeds run hmem
      exact hrun.reads
  · rw [hrun] at hplain
    -- the run stops at a target
    exact .inr ⟨runs, mid, target, rest, calls, e, next, hruns, ht, hs, hplain, hrun⟩

/-- Over a backend that answers by text and parameters no facet depends on the other targets. -/
theorem independent_of_compute (h : backend.AnswersBy answer) {state : σ}
    (hfacets : (compute settings catalog backend base targets state).1 = .ok facets) :
    Independent settings catalog backend base targets facets := by
  -- success and table are said of the targets one by one, so only which they are matters
  obtain ⟨heach, hsorted, hlookup⟩ := (compute_eq_ok_iff h state).mp hfacets
  refine ⟨fun target htarget other => ?_, fun others hsame other => ?_⟩
  · obtain ⟨values, hvalues⟩ := heach target htarget
    refine ⟨values, (hlookup target values).mpr ⟨htarget, hvalues⟩, ?_⟩
    rw [compute, computeFrom_eq_ok_iff h]
    exact ⟨[values], mapM_eq_ok_iff.mpr (.cons hvalues .nil), rfl⟩
  · refine (compute_eq_ok_iff h other).mpr ⟨fun t ht => heach t ((hsame t).mp ht), hsorted, ?_⟩
    intro t values
    rw [hlookup, hsame]

/-- A run over targets, with repeats or not, runs the statement of one target after the other.
Either all facets are computed: then each target is once in the table, with a value for each row
that its last statement gave.  Or the run stops at the first target whose facet does not compile,
whose statement fails or one of whose rows has no count: then there is that error and no table, and
nothing was run behind that target's statement, nor this one if it did not compile.

Over a backend that answers by text and parameters the facet of each target is the one that is
computed for it alone, and any list of the same targets gives the same table, whatever state the
backend is in. -/
theorem compute_run (settings : Settings) (catalog : Catalog) (backend : Backend σ) (base : Query)
    (targets : List String) (state : σ) :
    ((∃ runs facets next,
        Completed settings catalog backend base targets state runs facets next) ∨
      ∃ runs mid target rest calls e next,
        Stopped settings catalog backend base targets state runs mid target rest calls e next) ∧
    ∀ answer, backend.AnswersBy answer → ∀ facets,
      (compute settings catalog backend base targets state).1 = .ok facets →
        Independent settings catalog backend base targets facets :=
  ⟨completed_or_stopped settings catalog backend base targets state,
    fun _ h _ hfacets => independent_of_compute h hfacets⟩

/-- A backend that counts its runs and answers with one row: the text of the statement, counted as
often as there are parameters. -/
def echoing : Backend Nat :=
  ⟨fun s runs => (.ok [[("cnt", .int s.params.length), ("value", .str s.text)]], runs + 1)⟩

/-- A repeated target is computed twice and stands in the table once; the same targets in another
order, and in another state of the backend, give the same table. -/
theorem filteredSample_run : ∃ facets,
    compute Settings.default Query.sampleCatalog echoing Query.filteredSample
      ["city", "id", "city"] 0 = (.ok facets, 3) ∧
    (facets.map Prod.fst).Nodup ∧ (∀ target, target ∈ facets.map Prod.fst ↔
      target ∈ ["city", "id", "city"]) ∧
    (compute Settings.default Query.sampleCatalog echoing Query.filteredSample ["id", "city"] 7).1 =
      .ok facets := by
  have hok : failure? (compute Settings.default Query.sampleCatalog echoing Query.filteredSample
      ["city", "id", "city"] 0).1 = none := by decide +kernel
  have hruns : (compute Settings.default Query.sampleCatalog echoing Query.filteredSample
      ["city", "id", "city"] 0).2 = 3 := by decide +kernel
  obtain ⟨facets, hone⟩ := failure?_eq_none_iff.mp hok
  have hfacets : compute Settings.default Query.sampleCatalog echoing Query.filteredSample
      ["city", "id", "city"] 0 = (.ok facets, 3) := Prod.ext hone hruns
  obtain ⟨hrun, hindependent⟩ := compute_run Settings.default Query.sampleCatalog echoing
    Query.filteredSample ["city", "id", "city"] 0
  -- the backend counts its calls but answers by text and parameters
  have hsame := (hindependent
    (fun text params => .ok [[("cnt", .int params.length), ("value", .str text)]])
    (fun _ _ => rfl) facets hone).same_table
  rcases hrun with ⟨_, facets', _, hcompleted⟩ | ⟨_, _, _, _, _, _, _, hstopped⟩
  · obtain rfl : facets' = facets :=
      Except.ok.inj (congrArg Prod.fst (hcompleted.outcome.symm.trans hfacets))
    exact ⟨facets', hfacets, hcompleted.nodup, hcompleted.mem_iff,
      hsame ["id", "city"] (by simp [or_comm]) 7⟩
  · -- the table is there, so the run did not stop
    have herror := hstopped.outcome
    rw [hfacets] at herror
    cases herror

/-- A second statement that fails is the last one that is run. -/
example : (compute Settings.default Query.sampleCatalog Backend.scripted.recorded
    Query.filteredSample ["city", "id", "city"]
      ([.ok [], .error "locked"], [])).2.2.length = 2 := by
  decide +kernel

end Facets

end DashQuery
