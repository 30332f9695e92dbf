import DashQuery.Proofs.Filter.Shown

/-!
# The grammar of predicates

Words with their values in place are read as a formula over atoms.  `AND` binds
tighter than `OR`, and the `AND` of a range belongs to its atom:

* disjunction := conjunction [`OR` disjunction]
* conjunction := operand [`AND` conjunction]
* operand := `(` disjunction `)` | atom
* atom := reference operator operands

The reader knows nothing of filters.  `Formula.parse?` is the whole of it; the
lemmas say what it makes of an atom (`atom?_slots`), of parentheses
(`operand?_parens`) and of entries with a keyword between them
(`disjunction?_joined`).
-/

namespace DashQuery

/-- The truth of a conjunction or disjunction. -/
def Combinator.combine : Combinator → List Bool → Bool
  | and, bs => bs.all id
  | or, bs => bs.any id

/-- One value combined with no other is itself. -/
theorem Combinator.combine_singleton (c : Combinator) (b : Bool) : c.combine [b] = b := by
  cases c <;> simp [combine]

/-- The entries behind the first one count together as one. -/
theorem Combinator.combine_cons (c : Combinator) (b : Bool) (bs : List Bool) :
    c.combine (b :: bs) = c.combine [b, c.combine bs] := by
  cases c <;> simp [combine]

/-- A boolean expression over atoms. -/
inductive Formula where
  | atom (a : Atom)
  | compound (combinator : Combinator) (f g : Formula)
deriving DecidableEq

namespace Formula

/-- The truth of a formula, if `v` says which atoms are true. -/
def eval (v : Atom → Bool) : Formula → Bool
  | atom a => v a
  | compound combinator f g => combinator.combine [f.eval v, g.eval v]

/-! ## Atoms -/

/-- The column reference in front, and the slots behind it. -/
def reference? : List Slot → Option (ColumnRef × List Slot)
  | .fixed q :: ts =>
    if q.kind = .quotedIdentifier then
      match ts with
      | .fixed d :: .fixed c :: rest =>
        if d = .dot then
          if c.kind = .quotedIdentifier then some (.qualified q.content c.content, rest) else none
        else some (.bare q.content, ts)
      | _ => some (.bare q.content, ts)
    else none
  | _ => none

/-- The operator in front, and the slots behind it. -/
def operator? (ts : List Slot) : Option (Operator × List Slot) :=
  Operator.all.findSome? fun op =>
    if (op.words.map Slot.fixed).isPrefixOf ts then some (op, ts.drop op.words.length) else none

/-- The one value in front. -/
def single? : List Slot → Option (List Param × List Slot)
  | .value p :: ts => some ([p], ts)
  | _ => none

/-- The two bounds of a range. -/
def range? : List Slot → Option (List Param × List Slot)
  | .value low :: .fixed w :: .value high :: ts =>
    if w = .keyword "AND" then some ([low, high], ts) else none
  | _ => none

/-- The values up to the closing parenthesis, with commas between them. -/
def listed? : List Slot → Option (List Param × List Slot)
  | .value p :: .fixed w :: ts =>
    if w = .rightParen then some ([p], ts)
    else if w = .comma then (listed? ts).map fun (ps, rest) => (p :: ps, rest)
    else none
  | _ => none

/-- The values in parentheses. -/
def enclosed? : List Slot → Option (List Param × List Slot)
  | .fixed w :: ts => if w = .leftParen then listed? ts else none
  | _ => none

/-- The operands of an operator, and the slots behind them. -/
def operands? (op : Operator) (ts : List Slot) : Option (List Param × List Slot) :=
  match op with
  | .isNull | .isNotNull => some ([], ts)
  | .isIn | .notIn => enclosed? ts
  | .between => range? ts
  | .eq | .notEq | .gt | .lt | .gte | .lte | .like | .notLike => single? ts

/-- The atom in front, and the slots behind it. -/
def atom? (ts : List Slot) : Option (Atom × List Slot) :=
  match reference? ts with
  | none => none
  | some (ref, ts) =>
    match operator? ts with
    | none => none
    | some (op, ts) => (operands? op ts).map fun (values, rest) => (⟨ref, op, values⟩, rest)

/-! ## Reading takes something away -/

/-- A reference takes slots away. -/
theorem length_reference? {ts rest : List Slot} {ref : ColumnRef}
    (h : reference? ts = some (ref, rest)) : rest.length < ts.length := by
  -- every case takes at least the word in front
  unfold reference? at h
  split at h
  · split at h
    · split at h
      · split at h
        · split at h
          · obtain ⟨-, rfl⟩ := Prod.mk.inj (Option.some.inj h)
            simp only [List.length_cons]
            omega
          · cases h
        · obtain ⟨-, rfl⟩ := Prod.mk.inj (Option.some.inj h)
          exact Nat.lt_succ_self _
      · obtain ⟨-, rfl⟩ := Prod.mk.inj (Option.some.inj h)
        exact Nat.lt_succ_self _
    · cases h
  · cases h

/-- An operator takes slots away, or none. -/
theorem length_operator? {ts rest : List Slot} {op : Operator}
    (h : operator? ts = some (op, rest)) : rest.length ≤ ts.length := by
  obtain ⟨o, -, ho⟩ := List.exists_of_findSome?_eq_some h
  split at ho
  · obtain ⟨-, rfl⟩ := Prod.mk.inj (Option.some.inj ho)
    rw [List.length_drop]
    omega
  · cases ho

/-- A list of values takes slots away, or none. -/
theorem length_listed? {ts rest : List Slot} {ps : List Param}
    (h : listed? ts = some (ps, rest)) : rest.length ≤ ts.length := by
  fun_induction listed? ts generalizing ps rest with
  | case1 p ts =>
    obtain ⟨-, rfl⟩ := Prod.mk.inj (Option.some.inj h)
    simp only [List.length_cons]
    omega
  | case2 p ts hne ih =>
    -- the value and its comma, and then the rest of the list
    obtain ⟨⟨qs, s⟩, hs, heq⟩ := Option.map_eq_some_iff.mp h
    obtain ⟨-, rfl⟩ := Prod.mk.inj heq
    have hle := ih hs
    simp only [List.length_cons]
    omega
  | case3 => cases h
  | case4 => cases h

/-- Operands take slots away, or none. -/
theorem length_operands? {op : Operator} {ts rest : List Slot} {ps : List Param}
    (h : operands? op ts = some (ps, rest)) : rest.length ≤ ts.length := by
  -- one value
  have hsingle : single? ts = some (ps, rest) → rest.length ≤ ts.length := by
    intro h
    unfold single? at h
    split at h
    · obtain ⟨-, rfl⟩ := Prod.mk.inj (Option.some.inj h)
      exact Nat.le_succ _
    · cases h
  -- two values with a keyword between
  have hrange : range? ts = some (ps, rest) → rest.length ≤ ts.length := by
    intro h
    unfold range? at h
    split at h
    · obtain ⟨-, hrest⟩ := Option.ite_none_right_eq_some.mp h
      obtain ⟨-, rfl⟩ := Prod.mk.inj (Option.some.inj hrest)
      simp only [List.length_cons]
      omega
    · cases h
  -- a list in parentheses
  have henclosed : enclosed? ts = some (ps, rest) → rest.length ≤ ts.length := by
    intro h
    unfold enclosed? at h
    split at h
    · obtain ⟨-, hrest⟩ := Option.ite_none_right_eq_some.mp h
      exact Nat.le_succ_of_le (length_listed? hrest)
    · cases h
  -- an operator without operands takes nothing, and the others at least one slot
  cases op with
  | isNull | isNotNull =>
    obtain ⟨-, rfl⟩ := Prod.mk.inj (Option.some.inj h)
    exact Nat.le_refl _
  | isIn | notIn => exact henclosed h
  | between => exact hrange h
  | eq | notEq | gt | lt | gte | lte | like | notLike => exact hsingle h

/-- An atom takes slots away, as its reference does. -/
theorem length_atom? {ts rest : List Slot} {a : Atom} (h : atom? ts = some (a, rest)) :
    rest.length < ts.length := by
  unfold atom? at h
  split at h
  · cases h
  · next ref us hus =>
    split at h
    · cases h
    · next op vs hvs =>
      obtain ⟨⟨values, ws⟩, hws, heq⟩ := Option.map_eq_some_iff.mp h
      obtain ⟨-, rfl⟩ := Prod.mk.inj heq
      -- none of the three parts puts slots back
      have href := length_reference? hus
      have hop := length_operator? hvs
      have hvalues := length_operands? hws
      omega

/-! ## Formulas -/

/-- What is left of some slots when something was read off their front. -/
structure Rest (ts : List Slot) where
  slots : List Slot
  shorter : slots.length < ts.length

/-- What is left of the rest is left of the whole. -/
def Rest.andThen {ts : List Slot} (r : Rest ts) (s : Rest r.slots) : Rest ts :=
  ⟨s.slots, Nat.lt_trans s.shorter r.shorter⟩

/-- What stands behind a word, if the word is in front. -/
def behind? (w : Word) : (ts : List Slot) → Option (Rest ts)
  | [] => none
  | slot :: ts => if slot = .fixed w then some ⟨ts, Nat.lt_succ_self ts.length⟩ else none

/-- Reads on behind a first part as long as the combinator's keyword stands behind it. -/
def chain {ts : List Slot} (combinator : Combinator) (first : Option (Formula × Rest ts))
    (again : (us : List Slot) → us.length < ts.length → Option (Formula × Rest us)) :
    Option (Formula × Rest ts) :=
  match first with
  | none => none
  | some (f, r) =>
    match behind? (.keyword combinator.keyword) r.slots with
    | none => some (f, r)
    | some s =>
      (again (r.andThen s).slots (r.andThen s).shorter).map fun (g, u) =>
        (.compound combinator f g, (r.andThen s).andThen u)

/-- An atom as an operand. -/
def atomic? (ts : List Slot) : Option (Formula × Rest ts) :=
  match h : atom? ts with
  | none => none
  | some (a, rest) => some (.atom a, ⟨rest, length_atom? h⟩)

mutual

/-- A disjunction in front, and what is left behind it. -/
def disjunction? (ts : List Slot) : Option (Formula × Rest ts) :=
  chain .or (conjunction? ts) fun us _ => disjunction? us
termination_by (ts.length, 2)

/-- A conjunction in front, and what is left behind it. -/
def conjunction? (ts : List Slot) : Option (Formula × Rest ts) :=
  chain .and (operand? ts) fun us _ => conjunction? us
termination_by (ts.length, 1)

/-- An operand in front, and what is left behind it. -/
def operand? (ts : List Slot) : Option (Formula × Rest ts) :=
  match behind? .leftParen ts with
  | none => atomic? ts
  | some r =>
    match disjunction? r.slots with
    | none => none
    | some (f, s) =>
      (behind? .rightParen (r.andThen s).slots).map fun u => (f, (r.andThen s).andThen u)
termination_by (ts.length, 0)
decreasing_by exact Prod.Lex.left _ _ r.shorter

end

/-- A disjunction is a conjunction, and a disjunction behind the keyword. -/
theorem disjunction?_eq (ts : List Slot) :
    disjunction? ts = chain .or (conjunction? ts) fun us _ => disjunction? us := by
  rw [disjunction?]

/-- A conjunction is an operand, and a conjunction behind the keyword. -/
theorem conjunction?_eq (ts : List Slot) :
    conjunction? ts = chain .and (operand? ts) fun us _ => conjunction? us := by
  rw [conjunction?]

/-- The formula that the slots are, all of them. -/
def parse? (ts : List Slot) : Option Formula :=
  match disjunction? ts with
  | some (f, r) => if r.slots = [] then some f else none
  | none => none

/-! ## Reading an atom -/

/-- A reference is read back before anything but a dot. -/
theorem reference?_words {ref : ColumnRef} {r : List Slot}
    (hr : ∀ slot ∈ r.head?, slot ≠ .fixed .dot) :
    reference? (ref.words.map Slot.fixed ++ r) = some (ref, r) := by
  cases ref with
  | qualified qualifier column =>
    show some (ColumnRef.qualified (Word.quoted qualifier).content (Word.quoted column).content, r)
      = _
    rw [Word.content_quoted, Word.content_quoted]
  | bare column =>
    -- what stands behind it is no dot, so it is no qualifier
    have hbare : reference? (Slot.fixed (Word.quoted column) :: r) =
        some (.bare (Word.quoted column).content, r) := by
      simp only [reference?, Word.quoted, if_true]
      split
      · next d c rest =>
        have hd : d ≠ .dot := fun heq => hr (.fixed d) (by simp) (by rw [heq])
        rw [if_neg hd]
      · rfl
    rw [Word.content_quoted] at hbare
    exact hbare

/-- No operator begins as another one does, so the operator in front is the one written. -/
theorem operator?_words (op : Operator) (r : List Slot) :
    operator? (op.words.map Slot.fixed ++ r) = some (op, r) := by
  cases op <;> rfl

/-- A list of values is read back up to its closing parenthesis. -/
theorem listed?_values {ps : List Param} (hne : ps ≠ []) (r : List Slot) :
    listed? ([Slot.fixed .comma].intercalate (ps.map fun p => [Slot.value p]) ++
      .fixed .rightParen :: r) = some (ps, r) := by
  induction ps with
  | nil => exact absurd rfl hne
  | cons p ps ih =>
    cases ps with
    | nil => rfl
    | cons q qs =>
      -- the first value and its comma are taken off
      have hrest := ih (List.cons_ne_nil _ _)
      rw [List.map_cons, List.map_cons, List.intercalate_cons_cons, List.append_assoc,
        List.append_assoc]
      show (listed? ([Slot.fixed .comma].intercalate ((q :: qs).map fun p => [Slot.value p]) ++
        .fixed .rightParen :: r)).map (fun (ps, rest) => (p :: ps, rest)) = _
      rw [hrest]
      rfl

/-- Operands are read back, if there are as many values as the operator takes. -/
theorem operands?_operands {op : Operator} {values : List Param} (h : op.Fits values)
    (r : List Slot) : operands? op (op.operands values ++ r) = some (values, r) := by
  -- one value, a list of them, two with a keyword between, or none
  have hone : ∀ {values : List Param}, values.length = 1 →
      single? (values.map Slot.value ++ r) = some (values, r) := by
    intro values hlen
    obtain ⟨p, rfl⟩ := List.length_eq_one_iff.mp hlen
    rfl
  have hlist : ∀ {values : List Param}, values ≠ [] →
      enclosed? (enclose ([Slot.fixed .comma].intercalate
        (values.map fun p => [Slot.value p])) ++ r) = some (values, r) := by
    intro values hne
    -- the list is not empty, so it keeps its parentheses
    have hshown : [Slot.fixed .comma].intercalate (values.map fun p => [Slot.value p]) ≠ [] := by
      obtain ⟨p, ps, rfl⟩ := List.exists_cons_of_ne_nil hne
      exact fun hnil => absurd (eq_nil_of_intercalate_eq_nil hnil) (by simp)
    rw [enclose, if_neg (by simpa using hshown), List.cons_append, List.append_assoc]
    exact listed?_values hne r
  cases op with
  | isNull | isNotNull =>
    obtain rfl : values = [] := h
    rfl
  | isIn | notIn => exact hlist h
  | between =>
    obtain ⟨low, high, rfl⟩ := List.length_eq_two.mp h
    rfl
  | eq | notEq | gt | lt | gte | lte | like | notLike => exact hone h

/-- An atom is read back, whatever stands behind it. -/
theorem atom?_slots {a : Atom} (h : a.op.Fits a.values) (r : List Slot) :
    atom? (a.slots ++ r) = some (a, r) := by
  -- the operator stands behind the reference, so no dot can make it longer
  have hdot : ∀ slot ∈ (a.op.words.map Slot.fixed ++ (a.op.operands a.values ++ r)).head?,
      slot ≠ .fixed .dot := by
    cases a.op <;> simp [Operator.words] <;> decide
  have href : reference? (a.ref.words.map Slot.fixed ++
      (a.op.words.map Slot.fixed ++ (a.op.operands a.values ++ r))) =
        some (a.ref, a.op.words.map Slot.fixed ++ (a.op.operands a.values ++ r)) :=
    reference?_words hdot
  have hop := operator?_words a.op (a.op.operands a.values ++ r)
  have hvalues := operands?_operands h r
  rw [Atom.slots, List.map_append, List.append_assoc, List.append_assoc, atom?, href]
  simp only [hop, hvalues, Option.map_some]

/-! ## Reading a formula -/

/-- The reader takes the formula off the front and leaves `r`. -/
def Yields {ts : List Slot} (read : Option (Formula × Rest ts)) (f : Formula) (r : List Slot) :
    Prop := ∃ h, read = some (f, ⟨r, h⟩)

/-- No keyword stands in front, so no entry follows. -/
def Ends (r : List Slot) : Prop :=
  ∀ combinator : Combinator, ∀ slot ∈ r.head?, slot ≠ .fixed (.keyword combinator.keyword)

/-- Behind a word that stands in front is the rest. -/
theorem behind?_self (w : Word) (ts : List Slot) :
    behind? w (.fixed w :: ts) = some ⟨ts, Nat.lt_succ_self ts.length⟩ := if_pos rfl

/-- Nothing stands behind a word that is not in front. -/
theorem behind?_of_ne {w : Word} {ts : List Slot} (h : ∀ slot ∈ ts.head?, slot ≠ .fixed w) :
    behind? w ts = none := by
  cases ts with
  | nil => rfl
  | cons slot ts => exact if_neg (h slot (by simp))

section chain

variable {ts us r : List Slot} {combinator : Combinator} {f g : Formula}
  {first : Option (Formula × Rest ts)}
  {again : (us : List Slot) → us.length < ts.length → Option (Formula × Rest us)}

/-- Without the keyword behind it, the first part is all there is. -/
theorem chain_last (hf : Yields first f r)
    (hr : ∀ slot ∈ r.head?, slot ≠ .fixed (.keyword combinator.keyword)) :
    Yields (chain combinator first again) f r := by
  obtain ⟨h, rfl⟩ := hf
  refine ⟨h, ?_⟩
  simp only [chain, behind?_of_ne hr]

/-- With the keyword behind it, the first part goes together with what is read behind that. -/
theorem chain_more (hf : Yields first f (.fixed (.keyword combinator.keyword) :: us))
    (hg : ∀ h, Yields (again us h) g r) :
    Yields (chain combinator first again) (.compound combinator f g) r := by
  obtain ⟨h, rfl⟩ := hf
  have hlt : us.length < ts.length := Nat.lt_of_succ_lt h
  obtain ⟨h', heq⟩ := hg hlt
  refine ⟨Nat.lt_trans h' hlt, ?_⟩
  simp only [chain, behind?_self, Rest.andThen, heq, Option.map_some]

end chain

/-- Entries with a keyword between them are read one after another, if each of them is read before
the keyword and before what ends the whole. -/
theorem chain_joined {combinator : Combinator}
    {first next : (ts : List Slot) → Option (Formula × Rest ts)}
    (hnext : ∀ ts, next ts = chain combinator (first ts) fun us _ => next us)
    {parts : List (List Slot)} {fs : List Formula}
    (hparts : List.Forall₂ (fun u f => ∀ r, Ends r ∨
      r.head? = some (.fixed (.keyword combinator.keyword)) → Yields (first (u ++ r)) f r) parts fs)
    (hne : parts ≠ []) :
    ∃ f, (∀ r, Ends r → Yields (next
        ([.fixed (.keyword combinator.keyword)].intercalate parts ++ r)) f r) ∧
      ∀ v, f.eval v = combinator.combine (fs.map (eval v)) := by
  -- the induction is on the entries: the last one ends the chain, and each one in front of it
  -- is read up to its keyword and makes a compound with what follows
  induction hparts with
  | nil => exact absurd rfl hne
  | @cons u f parts fs hu hrest ih =>
    cases hrest with
    | nil =>
      refine ⟨f, fun r hr => ?_, fun v => (combinator.combine_singleton _).symm⟩
      rw [List.intercalate_singleton, hnext]
      exact chain_last (hu r (.inl hr)) (hr combinator)
    | cons _ _ =>
      obtain ⟨g, hg, hvalue⟩ := ih (List.cons_ne_nil _ _)
      refine ⟨.compound combinator f g, fun r hr => ?_, fun v => ?_⟩
      · rw [List.intercalate_cons_cons, List.append_assoc, List.append_assoc, hnext]
        exact chain_more (hu _ (.inr rfl)) fun _ => hg r hr
      · rw [eval, hvalue]
        exact (combinator.combine_cons _ _).symm

/-- Operands with a keyword between them are read as a disjunction, whichever keyword it is. -/
theorem disjunction?_joined (combinator : Combinator) {parts : List (List Slot)}
    {fs : List Formula}
    (hparts : List.Forall₂ (fun u f => ∀ r, Yields (operand? (u ++ r)) f r) parts fs)
    (hne : parts ≠ []) :
    ∃ f, (∀ r, Ends r → Yields (disjunction?
        ([.fixed (.keyword combinator.keyword)].intercalate parts ++ r)) f r) ∧
      ∀ v, f.eval v = combinator.combine (fs.map (eval v)) := by
  cases combinator with
  | and =>
    -- one conjunction, with no `OR` behind it
    obtain ⟨f, hf, hvalue⟩ := chain_joined conjunction?_eq
      (hparts.imp fun u f hu r _ => hu r) hne
    refine ⟨f, fun r hr => ?_, hvalue⟩
    rw [disjunction?_eq]
    exact chain_last (hf r hr) (hr .or)
  | or =>
    -- each operand is a conjunction by itself, for `OR` or the end follows
    refine chain_joined disjunction?_eq (hparts.imp fun u f hu r hr => ?_) hne
    rw [conjunction?_eq]
    refine chain_last (hu r) fun slot hslot => ?_
    rcases hr with hr | hr
    · exact hr .and slot hslot
    · rw [hr, Option.mem_some_iff] at hslot
      rw [← hslot]
      decide

/-- A disjunction in parentheses is an operand. -/
theorem operand?_parens {ts r : List Slot} {f : Formula}
    (h : Yields (disjunction? ts) f (.fixed .rightParen :: r)) :
    Yields (operand? (.fixed .leftParen :: ts)) f r := by
  obtain ⟨hlt, heq⟩ := h
  have hshort : r.length < (Slot.fixed .leftParen :: ts).length :=
    Nat.lt_succ_of_lt (Nat.lt_of_succ_lt hlt)
  refine ⟨hshort, ?_⟩
  rw [operand?, behind?_self]
  simp only [heq, Rest.andThen, behind?_self, Option.map_some]

/-- An atom is an operand. -/
theorem operand?_slots {a : Atom} (h : a.op.Fits a.values) (r : List Slot) :
    Yields (operand? (a.slots ++ r)) (.atom a) r := by
  -- an atom begins with a quoted name, so it is not taken for a group
  have hparen : behind? .leftParen (a.slots ++ r) = none := by
    apply behind?_of_ne
    cases href : a.ref <;> simp [Atom.slots, href, ColumnRef.words, Word.quoted, Word.leftParen]
  refine ⟨length_atom? (atom?_slots h r), ?_⟩
  rw [operand?, hparen]
  simp only [atomic?]
  split
  · next hnone => rw [atom?_slots h r] at hnone; cases hnone
  · next b rest hsome =>
    rw [atom?_slots h r] at hsome
    obtain ⟨rfl, rfl⟩ := Prod.mk.inj (Option.some.inj hsome)
    rfl

/-- What is read as a disjunction to the end is the formula that is parsed. -/
theorem parse?_eq_some {ts : List Slot} {f : Formula} (h : Yields (disjunction? ts) f []) :
    parse? ts = some f := by
  obtain ⟨hlt, heq⟩ := h
  simp only [parse?, heq, if_true]

end Formula

end DashQuery
