/-
# How tables grow

Every step that grows a table changes the field under one name (`changeField?`), by what the
field was before.  From the name on a step leads inwards (`enter?`), or gives the field a
value (`newField?`), or makes it a table or a list of tables (`newSection?`).  From this
shape follows what every step does to all the other fields:

| fact | says |
| --- | --- |
| `Spares` | a finished value stays, and would have stayed with any other value |
| `nodup_of_alterAt?` | no name comes twice |
| `plain_of_growFields?` | only a field of its own gives a name a finished value |

So a value that one field of many gives can be replaced afterwards:
`growFields?_withValue`.
-/

import LintWorkspace.Toml.Value

namespace LintWorkspace
namespace Toml

/-! ### Fields by name -/

section Fields

variable {α β : Type} {a b : String} {x y : α} {fs : List (String × α)}

theorem lookup?_cons (a : String) (f : String × α) (fs : List (String × α)) :
    lookup? a (f :: fs) = if f.1 = a then some f.2 else lookup? a fs := by
  by_cases h : f.1 = a <;> simp [lookup?, h]

theorem lookup?_setField :
    lookup? a (setField b x fs) = if b = a then some x else lookup? a fs := by
  induction fs with
  | nil => simp [setField, lookup?]
  | cons f fs ih =>
    rw [setField]
    split
    · rename_i hf
      rw [lookup?_cons, lookup?_cons, hf]
      split <;> rfl
    · rename_i hf
      rw [lookup?_cons, lookup?_cons, ih]
      split
      · rename_i hfa
        rw [if_neg fun hb => hf (hfa.trans hb.symm)]
      · rfl

theorem lookup?_setField_self : lookup? a (setField a x fs) = some x := by
  rw [lookup?_setField, if_pos rfl]

theorem lookup?_setField_of_ne (h : b ≠ a) : lookup? a (setField b x fs) = lookup? a fs := by
  rw [lookup?_setField, if_neg h]

theorem setField_setField : setField a x (setField a y fs) = setField a x fs := by
  induction fs with
  | nil => simp [setField]
  | cons f fs ih =>
    rw [setField]
    split
    · rename_i hf
      simp [setField, hf]
    · rename_i hf
      rw [setField, if_neg hf, ih, setField, if_neg hf]

/-- A field that is there and another one can be set in either order. -/
theorem setField_comm (hab : a ≠ b) (ha : (lookup? a fs).isSome = true) :
    setField a x (setField b y fs) = setField b y (setField a x fs) := by
  induction fs with
  | nil => simp [lookup?] at ha
  | cons f fs ih =>
    rw [lookup?_cons] at ha
    by_cases hfa : f.1 = a
    · have hfb : f.1 ≠ b := fun h => hab (hfa.symm.trans h)
      rw [setField, if_neg hfb, setField, if_pos hfa, setField, if_pos hfa, setField, if_neg hab]
    · rw [if_neg hfa] at ha
      by_cases hfb : f.1 = b
      · rw [setField, if_pos hfb, setField, if_neg (Ne.symm hab), setField, if_neg hfa, setField,
          if_pos hfb]
      · rw [setField, if_neg hfb, setField, if_neg hfa, ih ha, setField, if_neg hfa, setField,
          if_neg hfb]

theorem setField_of_lookup? (h : lookup? a fs = some x) : setField a x fs = fs := by
  induction fs with
  | nil => simp [lookup?] at h
  | cons f fs ih =>
    rw [lookup?_cons] at h
    rw [setField]
    split
    · rename_i hf
      rw [if_pos hf] at h
      rw [← Option.some.inj h, ← hf]
    · rename_i hf
      rw [if_neg hf] at h
      rw [ih h]

theorem mem_setField {f : String × α} (h : f ∈ setField a x fs) : f = (a, x) ∨ f ∈ fs := by
  induction fs with
  | nil => exact .inl (by simpa [setField] using h)
  | cons g fs ih =>
    rw [setField] at h
    split at h
    · exact (List.mem_cons.1 h).imp_right (List.mem_cons_of_mem _)
    · rcases List.mem_cons.1 h with rfl | h
      · exact .inr List.mem_cons_self
      · exact (ih h).imp_right (List.mem_cons_of_mem _)

theorem mem_names_iff : a ∈ fs.map Prod.fst ↔ (lookup? a fs).isSome = true := by
  induction fs with
  | nil => simp [lookup?]
  | cons f fs ih =>
    rw [lookup?_cons, List.map_cons, List.mem_cons, ih]
    by_cases hf : f.1 = a
    · simp [hf]
    · simp [hf, Ne.symm hf]

theorem nodup_setField (h : (fs.map Prod.fst).Nodup) :
    ((setField a x fs).map Prod.fst).Nodup := by
  induction fs with
  | nil => simp [setField]
  | cons f fs ih =>
    rw [List.map_cons, List.nodup_cons] at h
    rw [setField]
    split
    · rename_i hf
      rw [List.map_cons, List.nodup_cons, ← hf]
      exact h
    · rename_i hf
      rw [List.map_cons, List.nodup_cons]
      refine ⟨fun hmem => h.1 ?_, ih h.2⟩
      rw [mem_names_iff] at hmem ⊢
      rwa [lookup?_setField_of_ne (Ne.symm hf)] at hmem

theorem mem_of_lookup? (h : lookup? a fs = some x) : (a, x) ∈ fs := by
  induction fs with
  | nil => simp [lookup?] at h
  | cons f fs ih =>
    rw [lookup?_cons] at h
    split at h
    · rename_i hf
      rw [← Option.some.inj h, ← hf]
      exact List.mem_cons_self
    · exact List.mem_cons_of_mem _ (ih h)

theorem fieldValues_eq (fs : List (String × Growing)) :
    fieldValues fs = fs.map fun f => (f.1, f.2.value) := by
  induction fs with
  | nil => rfl
  | cons f fs ih => rw [fieldValues, ih, fieldValue, List.map_cons]

theorem elementValues_eq (elements : List (List (String × Growing))) :
    elementValues elements = elements.map fun fs => .table (fieldValues fs) := by
  induction elements with
  | nil => rfl
  | cons fs elements ih => rw [elementValues, ih, List.map_cons]

theorem names_fieldValues (fs : List (String × Growing)) :
    (fieldValues fs).map Prod.fst = fs.map Prod.fst := by
  simp [fieldValues_eq]

theorem fieldValues_setField (a : String) (g : Growing) (fs : List (String × Growing)) :
    fieldValues (setField a g fs) = setField a g.value (fieldValues fs) := by
  induction fs with
  | nil => rfl
  | cons f fs ih =>
    rw [setField, fieldValues, fieldValue, setField]
    split
    · rw [fieldValues, fieldValue]
    · rw [fieldValues, fieldValue, ih]

theorem lookup?_fieldValues (a : String) (fs : List (String × Growing)) :
    lookup? a (fieldValues fs) = (lookup? a fs).map Growing.value := by
  induction fs with
  | nil => rfl
  | cons f fs ih =>
    rw [fieldValues, fieldValue, lookup?_cons, lookup?_cons, ih]
    split <;> rfl

end Fields

/-! ### One step -/

/-- Changes the field under a name, by what the table and the field are. -/
def changeField? (name : String) (f : Origin → Option Growing → Option Growing)
    (t : GrowingTable) : Option GrowingTable :=
  (f t.1 (lookup? name t.2)).map fun g => (t.1, setField name g t.2)

/-- Goes into a field and changes the table there. -/
def enter? (dotted : Bool) (go : GrowingTable → Option GrowingTable) :
    Option Growing → Option Growing
  | none => (go (if dotted then .dotted else .passed, [])).map fun t => .table t.1 t.2
  | some (.table o inner) =>
    if dotted ∧ o = .header then none else (go (o, inner)).map fun t => .table t.1 t.2
  | some (.tables elements) =>
    if dotted then none
    else elements.getLast?.bind fun last =>
      (go (.header, last)).map fun t => .tables (elements.dropLast ++ [t.2])
  | some (.finished _) => none

/-- Gives a field its value; the flag says whether its key has one name only. -/
def newField? (single : Bool) (v : Value) (o : Origin) (g : Option Growing) : Option Growing :=
  if decide (o = .dotted) = single then none
  else match g with
    | none => some (.finished v)
    | some _ => none

/-- Makes a field what a section says. -/
def newSection? (s : Section) (_ : Origin) (g : Option Growing) : Option Growing :=
  if s.ofArray then
    (addEntries? (.header, []) s.entries).bind fun inner =>
      match g with
      | none => some (.tables [inner.2])
      | some (.tables elements) => some (.tables (elements ++ [inner.2]))
      | some _ => none
  else
    match g with
    | none => (addEntries? (.header, []) s.entries).map fun inner => .table .header inner.2
    | some (.table .passed inner) =>
      (addEntries? (.header, inner) s.entries).map fun inner => .table .header inner.2
    | some _ => none

variable {dotted : Bool} {change : GrowingTable → Option GrowingTable} {name n : String}
  {path : List String} {f : Origin → Option Growing → Option Growing} {t u : GrowingTable}

theorem alterAt?_cons (dotted : Bool) (change : GrowingTable → Option GrowingTable) (name : String)
    (path : List String) : alterAt? dotted change (name :: path) =
      changeField? name fun _ => enter? dotted (alterAt? dotted change path) := by
  funext t
  obtain ⟨o, fs⟩ := t
  rw [alterAt?, changeField?]
  dsimp only
  cases lookup? name fs with
  | none =>
    rw [enter?]
    cases alterAt? dotted change path (if dotted then .dotted else .passed, []) <;> rfl
  | some g =>
    cases g with
    | finished v => rfl
    | table o' inner =>
      rw [enter?]
      dsimp only
      split
      · rfl
      · cases alterAt? dotted change path (o', inner) <;> rfl
    | tables elements =>
      rw [enter?]
      dsimp only
      split
      · rfl
      · cases elements.getLast? with
        | none => rfl
        | some last =>
          simp only [Option.bind_eq_bind, Option.bind_some]
          cases alterAt? dotted change path (.header, last) <;> rfl

theorem addField?_eq (t : GrowingTable) (key : List String) (v : Value) : addField? t key v =
    key.getLast?.bind fun name =>
      alterAt? true (changeField? name (newField? key.dropLast.isEmpty v)) key.dropLast t := by
  rw [addField?]
  cases key.getLast? with
  | none => rfl
  | some name =>
    simp only [Option.bind_eq_bind, Option.bind_some]
    congr 1
    funext t
    obtain ⟨o, fs⟩ := t
    simp only [changeField?, newField?]
    split
    · rfl
    · cases lookup? name fs <;> rfl

theorem addSection?_eq (t : GrowingTable) (s : Section) : addSection? t s =
    s.key.names.getLast?.bind fun name =>
      alterAt? false (changeField? name (newSection? s)) s.key.names.dropLast t := by
  rw [addSection?]
  cases s.key.names.getLast? with
  | none => rfl
  | some name =>
    simp only [Option.bind_eq_bind, Option.bind_some]
    congr 1
    funext t
    obtain ⟨o, fs⟩ := t
    simp only [changeField?, newSection?]
    split
    · cases addEntries? (.header, []) s.entries with
      | none => rfl
      | some inner =>
        simp only [Option.bind_some]
        cases lookup? name fs with
        | none => rfl
        | some g => cases g <;> rfl
    · cases lookup? name fs with
      | none => cases addEntries? (.header, []) s.entries <;> rfl
      | some g =>
        cases g with
        | finished v => rfl
        | tables elements => rfl
        | table o' inner =>
          cases o' with
          | header | dotted => rfl
          | passed => cases h : addEntries? (.header, inner) s.entries <;> simp [h]

/-! ### What a step leaves alone -/

/-- A change of a table that leaves every finished value alone, whatever the value is. -/
def Spares (change : GrowingTable → Option GrowingTable) : Prop :=
  ∀ {t u : GrowingTable} {name : String} {v : Value}, change t = some u →
    lookup? name t.2 = some (.finished v) →
      lookup? name u.2 = some (.finished v) ∧
        ∀ w, change (t.1, setField name (.finished w) t.2) =
          some (u.1, setField name (.finished w) u.2)

/-- A change of a field that no finished value allows. -/
def Keeps (f : Origin → Option Growing → Option Growing) : Prop :=
  ∀ o v, f o (some (.finished v)) = none

theorem keeps_enter? (dotted : Bool) (go : GrowingTable → Option GrowingTable) :
    Keeps fun _ => enter? dotted go := fun _ _ => rfl

theorem keeps_newField? (single : Bool) (v : Value) : Keeps (newField? single v) := fun o w => by
  rw [newField?]
  split <;> rfl

theorem keeps_newSection? (s : Section) : Keeps (newSection? s) := fun o w => by
  rw [newSection?]
  · split
    · cases addEntries? (.header, []) s.entries <;> rfl
    · rfl
  · simp

theorem spares_changeField? (n : String) (hf : Keeps f) : Spares (changeField? n f) := by
  intro t u name v h hv
  obtain ⟨g, hg, rfl⟩ := Option.map_eq_some_iff.1 h
  have hne : n ≠ name := fun he => by
    rw [he, hv, hf] at hg
    simp at hg
  refine ⟨by rw [lookup?_setField_of_ne hne, hv], fun w => ?_⟩
  have hcomm := setField_comm (x := .finished w) (y := g) (Ne.symm hne) (by rw [hv]; rfl)
  rw [changeField?, lookup?_setField_of_ne (Ne.symm hne), hg, Option.map_some, hcomm]

theorem spares_alterAt? (h : Spares change) : Spares (alterAt? dotted change path) := by
  cases path with
  | nil =>
    have : alterAt? dotted change [] = change := by
      funext t
      rw [alterAt?]
    rwa [this]
  | cons name path =>
    rw [alterAt?_cons]
    exact spares_changeField? name (keeps_enter? _ _)

theorem spares_addField? (key : List String) (v : Value) : Spares fun t => addField? t key v := by
  intro t u name w h hw
  simp only [addField?_eq] at h ⊢
  obtain ⟨last, hlast, h⟩ := Option.bind_eq_some_iff.1 h
  simp only [hlast, Option.bind_some]
  exact spares_alterAt? (spares_changeField? last (keeps_newField? _ v)) h hw

theorem spares_addSection? (s : Section) : Spares fun t => addSection? t s := by
  intro t u name w h hw
  simp only [addSection?_eq] at h ⊢
  obtain ⟨last, hlast, h⟩ := Option.bind_eq_some_iff.1 h
  simp only [hlast, Option.bind_some]
  exact spares_alterAt? (spares_changeField? last (keeps_newSection? s)) h hw

/-- What every step spares, a run of steps spares. -/
theorem spares_foldlM {α : Type} {step : GrowingTable → α → Option GrowingTable}
    (hstep : ∀ x, Spares fun t => step t x) (xs : List α) : Spares fun t => xs.foldlM step t := by
  induction xs with
  | nil =>
    intro t u name v h hv
    obtain rfl := Option.some.inj h
    exact ⟨hv, fun w => rfl⟩
  | cons x xs ih =>
    intro t u name v h hv
    simp only [List.foldlM_cons] at h ⊢
    obtain ⟨t', hx, hxs⟩ := Option.bind_eq_some_iff.1 h
    obtain ⟨hv', hother⟩ := hstep x hx hv
    obtain ⟨hv'', hothers⟩ := ih hxs hv'
    refine ⟨hv'', fun w => ?_⟩
    have hfirst : step (t.1, setField name (.finished w) t.2) x = _ := hother w
    rw [hfirst]
    exact hothers w

theorem growFields?_eq (t : GrowingTable) (fields : List (Key × Spaced Node)) :
    growFields? t fields = fields.foldlM growField? t := by
  induction fields generalizing t with
  | nil => rw [growFields?]; rfl
  | cons f fields ih =>
    rw [growFields?, List.foldlM_cons]
    simp only [ih]

/-- The fields that entries give. -/
def fieldsOf (entries : List Entry) : List (Key × Spaced Node) :=
  entries.map fun e => (e.key, e.value)

theorem addEntries?_eq (t : GrowingTable) (entries : List Entry) :
    addEntries? t entries = growFields? t (fieldsOf entries) := by
  rw [growFields?_eq, fieldsOf, List.foldlM_map, addEntries?]
  simp only [growField?]

/-- What a document says grows in its own entries first and then in its sections. -/
theorem exists_of_fields? {doc : Document} {said : List (String × Value)}
    (h : doc.fields? = some said) :
    ∃ t u, growFields? (.header, []) (fieldsOf doc.entries) = some t ∧
      doc.sections.foldlM addSection? t = some u ∧ said = fieldValues u.2 := by
  obtain ⟨t, ht, h⟩ := Option.bind_eq_some_iff.1 h
  obtain ⟨u, hu, h⟩ := Option.bind_eq_some_iff.1 h
  exact ⟨t, u, addEntries?_eq _ _ ▸ ht, hu, (Option.some.inj h).symm⟩

theorem spares_growField? (f : Key × Spaced Node) : Spares fun t => growField? t f := by
  obtain ⟨key, s⟩ := f
  intro t u name w h hw
  simp only [growField?] at h ⊢
  obtain ⟨v, hv, h⟩ := Option.bind_eq_some_iff.1 h
  rw [hv]
  exact spares_addField? key.names v h hw

theorem spares_growFields? (fields : List (Key × Spaced Node)) :
    Spares fun t => growFields? t fields := by
  simp only [growFields?_eq]
  exact spares_foldlM spares_growField? fields

/-! ### Names -/

/-- A change of a table that adds no name twice. -/
def KeepsNodup (change : GrowingTable → Option GrowingTable) : Prop :=
  ∀ {t u : GrowingTable}, change t = some u → (t.2.map Prod.fst).Nodup → (u.2.map Prod.fst).Nodup

theorem nodup_changeField? (n : String) (f : Origin → Option Growing → Option Growing) :
    KeepsNodup (changeField? n f) := fun h ht => by
  obtain ⟨g, -, rfl⟩ := Option.map_eq_some_iff.1 h
  exact nodup_setField ht

theorem nodup_alterAt? (h : KeepsNodup change) : KeepsNodup (alterAt? dotted change path) := by
  cases path with
  | nil =>
    intro t u halter
    rw [alterAt?] at halter
    exact h halter
  | cons name path =>
    rw [alterAt?_cons]
    exact nodup_changeField? name _

theorem nodup_addField? (key : List String) (v : Value) :
    KeepsNodup fun t => addField? t key v := by
  intro t u h
  simp only [addField?_eq] at h
  obtain ⟨last, -, h⟩ := Option.bind_eq_some_iff.1 h
  exact nodup_alterAt? (nodup_changeField? last _) h

theorem nodup_addSection? (s : Section) : KeepsNodup fun t => addSection? t s := by
  intro t u h
  simp only [addSection?_eq] at h
  obtain ⟨last, -, h⟩ := Option.bind_eq_some_iff.1 h
  exact nodup_alterAt? (nodup_changeField? last _) h

theorem nodup_foldlM {α : Type} {step : GrowingTable → α → Option GrowingTable}
    (hstep : ∀ x, KeepsNodup fun t => step t x) (xs : List α) :
    KeepsNodup fun t => xs.foldlM step t := by
  induction xs with
  | nil =>
    intro t u h ht
    obtain rfl := Option.some.inj h
    exact ht
  | cons x xs ih =>
    intro t u h ht
    simp only [List.foldlM_cons] at h
    obtain ⟨t', hx, hxs⟩ := Option.bind_eq_some_iff.1 h
    exact ih hxs (hstep x hx ht)

theorem nodup_growFields? (fields : List (Key × Spaced Node)) :
    KeepsNodup fun t => growFields? t fields := by
  simp only [growFields?_eq]
  refine nodup_foldlM (fun f => ?_) fields
  obtain ⟨key, s⟩ := f
  intro t u h
  simp only [growField?] at h
  obtain ⟨v, -, h⟩ := Option.bind_eq_some_iff.1 h
  exact nodup_addField? key.names v h

/-! ### Finished values -/

/-- A table has a finished value under a name. -/
def Plain (name : String) (t : GrowingTable) : Prop := ∃ v, lookup? name t.2 = some (.finished v)

/-- A change of a field that never leaves a finished value. -/
def Opens (f : Origin → Option Growing → Option Growing) : Prop :=
  ∀ o g g', f o g = some g' → ∀ v, g' ≠ .finished v

theorem opens_enter? (dotted : Bool) (go : GrowingTable → Option GrowingTable) :
    Opens fun _ => enter? dotted go := by
  rintro o g g' h v rfl
  cases g with
  | none =>
    obtain ⟨t, -, h⟩ := Option.map_eq_some_iff.1 h
    cases h
  | some g =>
    cases g with
    | finished w => cases h
    | table o' inner =>
      dsimp only [enter?] at h
      split at h
      · cases h
      · obtain ⟨t, -, h⟩ := Option.map_eq_some_iff.1 h
        cases h
    | tables elements =>
      dsimp only [enter?] at h
      split at h
      · cases h
      · obtain ⟨last, -, h⟩ := Option.bind_eq_some_iff.1 h
        obtain ⟨t, -, h⟩ := Option.map_eq_some_iff.1 h
        cases h

theorem opens_newSection? (s : Section) : Opens (newSection? s) := by
  rintro o g g' h v rfl
  unfold newSection? at h
  split at h
  · obtain ⟨inner, -, h⟩ := Option.bind_eq_some_iff.1 h
    split at h <;> cases h
  · split at h
    · obtain ⟨t, -, h⟩ := Option.map_eq_some_iff.1 h
      cases h
    · obtain ⟨t, -, h⟩ := Option.map_eq_some_iff.1 h
      cases h
    · cases h

theorem plain_of_changeField? (hf : n ≠ name ∨ Opens f) (h : changeField? n f t = some u)
    (hu : Plain name u) : Plain name t := by
  obtain ⟨g, hg, rfl⟩ := Option.map_eq_some_iff.1 h
  obtain ⟨v, hv⟩ := hu
  rw [lookup?_setField] at hv
  split at hv
  · rename_i hn
    rcases hf with hne | hopens
    · exact absurd hn hne
    · exact absurd (Option.some.inj hv) (hopens _ _ _ hg v)
  · exact ⟨v, hv⟩

/-- Only a field of its own gives a name a finished value. -/
theorem plain_of_addField? {key : List String} {v : Value} (hkey : key ≠ [name])
    (h : addField? t key v = some u) (hu : Plain name u) : Plain name t := by
  rw [addField?_eq] at h
  obtain ⟨last, hlast, h⟩ := Option.bind_eq_some_iff.1 h
  obtain ⟨above, rfl⟩ := List.getLast?_eq_some_iff.1 hlast
  rw [List.dropLast_concat] at h
  cases above with
  | nil =>
    rw [alterAt?] at h
    exact plain_of_changeField? (.inl fun he => hkey (by simp [he])) h hu
  | cons first above =>
    rw [alterAt?_cons] at h
    exact plain_of_changeField? (.inr (opens_enter? _ _)) h hu

theorem addField?_singleton (t : GrowingTable) (name : String) (v : Value) :
    addField? t [name] v = changeField? name (newField? true v) t := by
  rw [addField?_eq]
  rfl

/-- A field is only given its value where there was none. -/
theorem lookup?_of_addField? {v : Value} (h : addField? t [name] v = some u) :
    lookup? name t.2 = none ∧ lookup? name u.2 = some (.finished v) ∧
      ∀ w, addField? t [name] w = some (u.1, setField name (.finished w) u.2) := by
  rw [addField?_singleton] at h
  obtain ⟨g, hg, rfl⟩ := Option.map_eq_some_iff.1 h
  unfold newField? at hg
  split at hg
  · simp at hg
  · rename_i ho
    split at hg
    · rename_i hnone
      obtain rfl := Option.some.inj hg
      refine ⟨hnone, lookup?_setField_self, fun w => ?_⟩
      rw [addField?_singleton, changeField?, hnone]
      simp only [newField?, if_neg ho, Option.map_some, setField_setField]
    · simp at hg

variable {fields : List (Key × Spaced Node)}

theorem growFields?_cons {f : Key × Spaced Node} (h : growFields? t (f :: fields) = some u) :
    ∃ v t', itemValue? f.2 = some v ∧ addField? t f.1.names v = some t' ∧
      growFields? t' fields = some u := by
  obtain ⟨key, s⟩ := f
  rw [growFields?, growField?] at h
  obtain ⟨t', hf, hfields⟩ := Option.bind_eq_some_iff.1 h
  obtain ⟨v, hv, hadd⟩ := Option.bind_eq_some_iff.1 hf
  exact ⟨v, t', hv, hadd, hfields⟩

/-- A finished value comes from a field with just that name. -/
theorem plain_of_growFields? (h : growFields? t fields = some u) (hu : Plain name u) :
    Plain name t ∨ ∃ f ∈ fields, f.1.names = [name] := by
  induction fields generalizing t with
  | nil =>
    rw [growFields?] at h
    obtain rfl := Option.some.inj h
    exact .inl hu
  | cons f fields ih =>
    obtain ⟨v, t', -, hadd, hfields⟩ := growFields?_cons h
    rcases ih hfields with ht' | ⟨f', hf', hname⟩
    · by_cases hkey : f.1.names = [name]
      · exact .inr ⟨f, List.mem_cons_self, hkey⟩
      · exact .inl (plain_of_addField? hkey hadd ht')
    · exact .inr ⟨f', List.mem_cons_of_mem _ hf', hname⟩

/-- A field of its own gives a name its value. -/
theorem lookup?_of_growFields? (h : growFields? t fields = some u) {f : Key × Spaced Node}
    (hf : f ∈ fields) (hname : f.1.names = [name]) :
    ∃ v, itemValue? f.2 = some v ∧ lookup? name u.2 = some (.finished v) := by
  induction fields generalizing t with
  | nil => simp at hf
  | cons g fields ih =>
    obtain ⟨v, t', hv, hadd, hfields⟩ := growFields?_cons h
    rcases List.mem_cons.1 hf with rfl | hf
    · rw [hname] at hadd
      obtain ⟨-, hv', -⟩ := lookup?_of_addField? hadd
      exact ⟨v, hv, (spares_growFields? fields hfields hv').1⟩
    · exact ih hfields hf

/-- A finished value is given once. -/
theorem names_ne_of_plain (h : growFields? t fields = some u) (ht : Plain name t) :
    ∀ f ∈ fields, f.1.names ≠ [name] := by
  induction fields generalizing t with
  | nil => simp
  | cons f fields ih =>
    obtain ⟨v, t', -, hadd, hfields⟩ := growFields?_cons h
    obtain ⟨w, hw⟩ := ht
    refine List.forall_mem_cons.2 ⟨fun hname => ?_, ih hfields ⟨w, ?_⟩⟩
    · rw [hname] at hadd
      rw [(lookup?_of_addField? hadd).1] at hw
      simp at hw
    · exact (spares_addField? f.1.names v hadd hw).1

/-- Of some fields only one gives a name its value. -/
theorem eq_of_names (h : growFields? t fields = some u) {f f' : Key × Spaced Node}
    (hf : f ∈ fields) (hf' : f' ∈ fields) (hname : f.1.names = [name])
    (hname' : f'.1.names = [name]) : f = f' := by
  induction fields generalizing t with
  | nil => cases hf
  | cons first fields ih =>
    obtain ⟨v, t', -, hadd, hfields⟩ := growFields?_cons h
    -- once the name has its value, no further field gives it one
    have hnone : first.1.names = [name] → ∀ f ∈ fields, f.1.names ≠ [name] := fun hfirst => by
      rw [hfirst] at hadd
      exact names_ne_of_plain hfields ⟨v, (lookup?_of_addField? hadd).2.1⟩
    rcases List.mem_cons.1 hf with rfl | hmem
    · rcases List.mem_cons.1 hf' with rfl | hmem'
      · rfl
      · exact absurd hname' (hnone hname f' hmem')
    · rcases List.mem_cons.1 hf' with rfl | hmem'
      · exact absurd hname (hnone hname' f hmem)
      · exact ih hfields hmem hmem'

/-- The fields with the value under a name replaced. -/
def withValue (name : String) (node : Node) (fields : List (Key × Spaced Node)) :
    List (Key × Spaced Node) :=
  fields.map fun f => if f.1.names = [name] then (f.1, { f.2 with value := node }) else f

theorem itemValue?_eq (s : Spaced Node) : itemValue? s = s.value.value? := by
  obtain ⟨b, node, a⟩ := s
  rw [itemValue?]

/-- **A value that one field gives can be replaced**: the table is the same but for it. -/
theorem growFields?_withValue {node : Node} {w : Value} (hnode : node.value? = some w)
    (hname : ∃ f ∈ fields, f.1.names = [name]) (h : growFields? t fields = some u) :
    Plain name u ∧
      growFields? t (withValue name node fields) = some (u.1, setField name (.finished w) u.2) := by
  induction fields generalizing t with
  | nil => simp at hname
  | cons f fields ih =>
    obtain ⟨v, t', hv, hadd, hfields⟩ := growFields?_cons h
    by_cases hkey : f.1.names = [name]
    · obtain ⟨key, s⟩ := f
      dsimp only at hkey hv hadd
      rw [hkey] at hadd
      obtain ⟨-, hv', hother⟩ := lookup?_of_addField? hadd
      have hadd' := hother w
      have hrest : withValue name node fields = fields := by
        refine (List.map_congr_left fun f hf => ?_).trans (List.map_id fields)
        rw [if_neg (names_ne_of_plain hfields ⟨v, hv'⟩ f hf)]
        rfl
      obtain ⟨hplain, hsame⟩ := spares_growFields? fields hfields hv'
      refine ⟨⟨v, hplain⟩, ?_⟩
      have hfirst : withValue name node ((key, s) :: fields) =
          (key, { s with value := node }) :: fields := by
        rw [withValue, List.map_cons, if_pos hkey, ← withValue, hrest]
      rw [hfirst, growFields?, growField?, itemValue?_eq, hnode, hkey]
      simp only [Option.bind_eq_bind, Option.bind_some, hadd']
      exact hsame w
    · have hname' : ∃ f ∈ fields, f.1.names = [name] := by
        obtain ⟨f', hf', hname⟩ := hname
        rcases List.mem_cons.1 hf' with rfl | hf'
        · exact absurd hname hkey
        · exact ⟨f', hf', hname⟩
      obtain ⟨hplain, hsame⟩ := ih hname' hfields
      refine ⟨hplain, ?_⟩
      obtain ⟨key, s⟩ := f
      dsimp only at hkey hv hadd
      rw [withValue, List.map_cons, if_neg hkey, ← withValue, growFields?, growField?, hv]
      simp only [Option.bind_eq_bind, Option.bind_some, hadd]
      exact hsame

end Toml
end LintWorkspace
