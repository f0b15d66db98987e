/-
# A rule with another action

A table is decoded field by field.  When no name comes twice, what is decoded is what stands
under the names (`Rule.ofFields_eq_ok_iff`), so a table with another action in it is decoded
to the same rule with that action, and a document with such rules to the same document with
those rules (`Document.ofFields_setRules`).
-/

import LintWorkspace.Proofs.Fallible
import LintWorkspace.Proofs.Table
import LintWorkspace.Ruleset.Document

namespace LintWorkspace
namespace Ruleset

open Toml (Value ShapeFault lookup? setField)

/-! ### Decoding field by field -/

theorem exists_of_mem_forall₂ {α β : Type} {R : α → β → Prop} {xs : List α} {ys : List β}
    (h : List.Forall₂ R xs ys) {x : α} (hx : x ∈ xs) : ∃ y ∈ ys, R x y := by
  induction h with
  | nil => cases hx
  | cons hR _ ih =>
    rcases List.mem_cons.1 hx with rfl | hx
    · exact ⟨_, List.mem_cons_self, hR⟩
    · obtain ⟨y, hy, hR⟩ := ih hx
      exact ⟨y, List.mem_cons_of_mem _ hy, hR⟩

section Fields

variable {σ γ ε : Type} {step : σ → String × Value → Except ε σ} {fields : List (String × Value)}
  {st st' : σ}

/-- A table is decoded if each field is one that can be. -/
theorem exists_foldlM_iff {good : String × Value → Prop}
    (hstep : ∀ st f, (∃ st', step st f = .ok st') ↔ good f) (fields : List (String × Value))
    (st : σ) : (∃ st', fields.foldlM step st = .ok st') ↔ ∀ f ∈ fields, good f := by
  induction fields generalizing st with
  | nil => simpa using ⟨st, rfl⟩
  | cons f fields ih =>
    rw [List.forall_mem_cons, ← hstep st f]
    constructor
    · rintro ⟨st', h⟩
      rw [List.foldlM_cons] at h
      obtain ⟨st₁, hf, h⟩ := bind_eq_ok_iff.1 h
      exact ⟨⟨st₁, hf⟩, (ih st₁).1 ⟨st', h⟩⟩
    · rintro ⟨⟨st₁, hf⟩, hmore⟩
      obtain ⟨st', h⟩ := (ih st₁).2 hmore
      refine ⟨st', ?_⟩
      rw [List.foldlM_cons]
      exact bind_eq_ok_iff.2 ⟨st₁, hf, h⟩

/-- A field that is not there is not decoded. -/
theorem get_foldlM_of_none (get : σ → γ) {name : String}
    (hother : ∀ {st f st'}, f.1 ≠ name → step st f = .ok st' → get st' = get st)
    (hnone : lookup? name fields = none) (h : fields.foldlM step st = .ok st') :
    get st' = get st := by
  induction fields generalizing st with
  | nil =>
    obtain rfl : st = st' := Except.ok.inj h
    rfl
  | cons f fields ih =>
    rw [Toml.lookup?_cons] at hnone
    rw [List.foldlM_cons] at h
    obtain ⟨st₁, hf, h⟩ := bind_eq_ok_iff.1 h
    by_cases hfirst : f.1 = name
    · rw [if_pos hfirst] at hnone
      cases hnone
    · rw [if_neg hfirst] at hnone
      exact (ih hnone h).trans (hother hfirst hf)

/-- What is decoded from one field of a table. -/
theorem get_foldlM (get : σ → γ) {name : String} {read : Value → Except ε γ}
    (hname : ∀ {st v st'}, step st (name, v) = .ok st' → read v = .ok (get st'))
    (hother : ∀ {st f st'}, f.1 ≠ name → step st f = .ok st' → get st' = get st)
    (hnodup : (fields.map Prod.fst).Nodup) (h : fields.foldlM step st = .ok st') :
    (∀ v, lookup? name fields = some v → read v = .ok (get st')) ∧
      (lookup? name fields = none → get st' = get st) := by
  refine ⟨fun v hv => ?_, fun hnone => get_foldlM_of_none get hother hnone h⟩
  induction fields generalizing st with
  | nil => simp [lookup?] at hv
  | cons f fields ih =>
    rw [List.map_cons, List.nodup_cons] at hnodup
    rw [List.foldlM_cons] at h
    rw [Toml.lookup?_cons] at hv
    obtain ⟨st₁, hf, h⟩ := bind_eq_ok_iff.1 h
    by_cases hfirst : f.1 = name
    · have hmissing : lookup? name fields = none := by
        rw [← Option.not_isSome_iff_eq_none, ← Toml.mem_names_iff, ← hfirst]
        exact hnodup.1
      rw [if_pos hfirst] at hv
      obtain rfl := Option.some.inj hv
      rw [get_foldlM_of_none get hother hmissing h]
      subst hfirst
      exact hname hf
    · rw [if_neg hfirst] at hv
      exact ih hnodup.2 h hv

end Fields

theorem string_eq_ok_iff {v : Value} {s : String} :
    v.string = .ok s ↔ v = .scalar (.string s) := by
  cases v with
  | scalar x => cases x <;> simp [Value.string]
  | sequence | table => simp [Value.string]

/-! ### Rules -/

namespace Rule

/-- Decodes one field of a rule. -/
def readField (r : Option String × Option String) (field : String × Value) :
    Except ShapeFault (Option String × Option String) :=
  if field.1 = "code" then do return (some (← field.2.string), r.2)
  else if field.1 = "action" then do return (r.1, some (← field.2.string))
  else do
    field.2.pass
    return r

/-- A field that a rule can have. -/
def Good (field : String × Value) : Prop :=
  if field.1 = "code" ∨ field.1 = "action" then ∃ s, field.2 = .scalar (.string s)
  else field.2.pass = .ok ()

theorem readField_eq_ok_iff (r : Option String × Option String) (f : String × Value) :
    (∃ r', readField r f = .ok r') ↔ Good f := by
  unfold readField Good
  by_cases hcode : f.1 = "code"
  · rw [if_pos hcode, if_pos (.inl hcode)]
    simp only [← string_eq_ok_iff]
    cases f.2.string <;> simp [bind, Except.bind, pure, Except.pure]
  · rw [if_neg hcode]
    by_cases haction : f.1 = "action"
    · rw [if_pos haction, if_pos (.inr haction)]
      simp only [← string_eq_ok_iff]
      cases f.2.string <;> simp [bind, Except.bind, pure, Except.pure]
    · rw [if_neg haction, if_neg (by simp [hcode, haction])]
      cases f.2.pass <;> simp [bind, Except.bind, pure, Except.pure]

/-- Decodes the required code and action of a rule. -/
def complete (r : Option String × Option String) : Except ShapeFault Rule := do
  return ⟨← Value.require "code" r.1, ← Value.require "action" r.2⟩

theorem ofFields_eq (fields : List (String × Value)) :
    ofFields fields = fields.foldlM readField (none, none) >>= complete := rfl

variable {fields : List (String × Value)} {r : Rule}

theorem complete_eq_ok_iff {p : Option String × Option String} :
    complete p = .ok r ↔ p = (some r.code, some r.action) := by
  obtain ⟨code, action⟩ := p
  cases code with
  | none => simp [complete, Value.require, bind, Except.bind]
  | some code =>
    cases action with
    | none => simp [complete, Value.require, bind, Except.bind]
    | some action =>
      obtain ⟨code', action'⟩ := r
      simp [complete, Value.require, bind, Except.bind, pure, Except.pure]

theorem map_some_string {v : Value} {x : Option String} (h : v.string.map some = .ok x) :
    ∃ s, v = .scalar (.string s) ∧ x = some s := by
  obtain ⟨s, hv, rfl⟩ := map_eq_ok_iff.1 h
  exact ⟨s, string_eq_ok_iff.1 hv, rfl⟩

theorem other_of_readField {p q : Option String × Option String} {f : String × Value}
    (hf : f.1 ≠ "action") (h : readField p f = .ok q) : q.2 = p.2 := by
  unfold readField at h
  split at h
  · cases hv : f.2.string <;> rw [hv] at h <;> cases h
    rfl
  · cases hv : f.2.pass <;> rw [hv] at h <;> cases h
    rfl

/-- The code and the action that are decoded are what stands under these names. -/
theorem lookup?_of_foldlM {p q : Option String × Option String}
    (hnodup : (fields.map Prod.fst).Nodup) (h : fields.foldlM readField p = .ok q) :
    ((∀ v, lookup? "code" fields = some v → v.string.map some = .ok q.1) ∧
      (lookup? "code" fields = none → q.1 = p.1)) ∧
    (∀ v, lookup? "action" fields = some v → v.string.map some = .ok q.2) ∧
      (lookup? "action" fields = none → q.2 = p.2) := by
  refine ⟨get_foldlM Prod.fst (fun {p v q} h => ?_) (fun {p f q} hf h => ?_) hnodup h,
    get_foldlM Prod.snd (fun {p v q} h => ?_) other_of_readField hnodup h⟩
  · rw [readField, if_pos rfl] at h
    cases hv : v.string <;> rw [hv] at h <;> cases h
    rfl
  · rw [readField, if_neg hf] at h
    split at h
    · cases hv : f.2.string <;> rw [hv] at h <;> cases h
      rfl
    · cases hv : f.2.pass <;> rw [hv] at h <;> cases h
      rfl
  · rw [readField, if_neg (by simp), if_pos rfl] at h
    cases hv : v.string <;> rw [hv] at h <;> cases h
    rfl

/-- **A table is a rule if it has a code and an action**, and no other field is out of range. -/
theorem ofFields_eq_ok_iff (hnodup : (fields.map Prod.fst).Nodup) :
    ofFields fields = .ok r ↔ lookup? "code" fields = some (.scalar (.string r.code)) ∧
      lookup? "action" fields = some (.scalar (.string r.action)) ∧ ∀ f ∈ fields, Good f := by
  rw [ofFields_eq]
  constructor
  · intro h
    obtain ⟨q, hfold, h⟩ := bind_eq_ok_iff.1 h
    have hq : q = (some r.code, some r.action) := complete_eq_ok_iff.1 h
    obtain ⟨⟨hcode, hnoCode⟩, haction, hnoAction⟩ := lookup?_of_foldlM hnodup hfold
    rw [hq] at hcode hnoCode haction hnoAction
    refine ⟨?_, ?_, (exists_foldlM_iff readField_eq_ok_iff fields _).1 ⟨q, hfold⟩⟩
    · cases hv : lookup? "code" fields with
      | none => exact absurd (hnoCode hv) (by simp)
      | some v =>
        obtain ⟨s, rfl, hs⟩ := map_some_string (hcode v hv)
        rw [Option.some.inj hs]
    · cases hv : lookup? "action" fields with
      | none => exact absurd (hnoAction hv) (by simp)
      | some v =>
        obtain ⟨s, rfl, hs⟩ := map_some_string (haction v hv)
        rw [Option.some.inj hs]
  · rintro ⟨hcode, haction, hgood⟩
    obtain ⟨q, hfold⟩ := (exists_foldlM_iff readField_eq_ok_iff fields (none, none)).2 hgood
    obtain ⟨⟨hcode', -⟩, haction', -⟩ := lookup?_of_foldlM hnodup hfold
    obtain ⟨c, hc, hq₁⟩ := map_some_string (hcode' _ hcode)
    obtain ⟨a, ha, hq₂⟩ := map_some_string (haction' _ haction)
    obtain rfl : r.code = c := by simpa using hc
    obtain rfl : r.action = a := by simpa using ha
    rw [hfold]
    exact complete_eq_ok_iff.2 (Prod.ext hq₁ hq₂)

/-- A rule has an action, whatever else the table holds. -/
theorem exists_action_of_ofFields (h : ofFields fields = .ok r) :
    ∃ a, lookup? "action" fields = some (.scalar (.string a)) := by
  rw [ofFields_eq] at h
  obtain ⟨q, hfold, h⟩ := bind_eq_ok_iff.1 h
  obtain rfl : q = (some r.code, some r.action) := complete_eq_ok_iff.1 h
  have hgood := (exists_foldlM_iff readField_eq_ok_iff fields _).1 ⟨_, hfold⟩
  cases hv : lookup? "action" fields with
  | none =>
    have := get_foldlM_of_none Prod.snd (fun {p f q} hf h => ?_) hv hfold
    · cases this
    · exact other_of_readField hf h
  | some v =>
    obtain ⟨s, rfl⟩ : ∃ s, v = .scalar (.string s) := by
      have := hgood _ (Toml.mem_of_lookup? hv)
      exact (if_pos (.inr rfl)).mp this
    exact ⟨s, rfl⟩

/-- A rule with its action set is the rule with that action. -/
theorem ofFields_setAction (hnodup : (fields.map Prod.fst).Nodup) (h : ofFields fields = .ok r)
    (action : String) :
    ofFields (setField "action" (.scalar (.string action)) fields) = .ok { r with action } := by
  obtain ⟨hcode, -, hgood⟩ := (ofFields_eq_ok_iff hnodup).1 h
  refine (ofFields_eq_ok_iff (Toml.nodup_setField hnodup)).2
    ⟨?_, Toml.lookup?_setField_self, fun f hf => ?_⟩
  · rw [Toml.lookup?_setField_of_ne (by decide), hcode]
  · rcases Toml.mem_setField hf with rfl | hf
    · exact (if_pos (.inr rfl)).mpr ⟨action, rfl⟩
    · exact hgood f hf

end Rule

/-- Two values of which the second may be a rule of a code, with another action. -/
inductive ActionSet (code action : String) : Value → Value → Prop
  | same (v : Value) : ActionSet code action v v
  | set {fields : List (String × Value)} (hnodup : (fields.map Prod.fst).Nodup)
      (hcode : lookup? "code" fields = some (.scalar (.string code))) :
      ActionSet code action (.table fields)
        (.table (setField "action" (.scalar (.string action)) fields))

/-- Two rules of which the second may have another action if it is for a code. -/
def Regraded (code action : String) (r r' : Rule) : Prop :=
  r' = r ∨ r.code = code ∧ r' = { r with action }

variable {code action : String}

theorem ActionSet.regraded {v v' : Value} {r : Rule} (h : ActionSet code action v v')
    (hr : Rule.ofValue v = .ok r) : ∃ r', Rule.ofValue v' = .ok r' ∧ Regraded code action r r' := by
  cases h with
  | same => exact ⟨r, hr, .inl rfl⟩
  | @set fields hnodup hcode =>
    refine ⟨_, Rule.ofFields_setAction hnodup hr action, .inr ⟨?_, rfl⟩⟩
    obtain ⟨hcode', -, -⟩ := (Rule.ofFields_eq_ok_iff hnodup).1 hr
    rw [hcode] at hcode'
    simpa using hcode'.symm

/-- A list of rules with actions set is the list of those rules. -/
theorem regraded_mapM {items items' : List Value} {rules : List Rule}
    (h : List.Forall₂ (ActionSet code action) items items')
    (hrules : items.mapM Rule.ofValue = .ok rules) :
    ∃ rules', items'.mapM Rule.ofValue = .ok rules' ∧
      List.Forall₂ (Regraded code action) rules rules' := by
  rw [mapM_eq_ok_iff] at hrules
  simp only [mapM_eq_ok_iff]
  induction h generalizing rules with
  | nil =>
    cases hrules
    exact ⟨[], .nil, .nil⟩
  | cons hv _ ih =>
    cases hrules with
    | cons hr hmore =>
      obtain ⟨r', hr', hregraded⟩ := hv.regraded hr
      obtain ⟨rules', hrules', hall⟩ := ih hmore
      exact ⟨r' :: rules', .cons hr' hrules', .cons hregraded hall⟩

/-! ### Documents -/

namespace Document

/-- Decodes one field of a document. -/
def readField (doc : Document) (field : String × Value) : Except ShapeFault Document :=
  if field.1 = "imports" then do
    return { doc with imports := ← field.2.list Value.string }
  else if field.1 = "rules" then do
    return { doc with rules := ← field.2.list Rule.ofValue }
  else do
    field.2.pass
    return doc

theorem ofFields_eq (fields : List (String × Value)) :
    ofFields fields = fields.foldlM readField ⟨[], []⟩ := rfl

/-- A field that a document can have. -/
def Good (field : String × Value) : Prop := ∃ doc, readField ⟨[], []⟩ field = .ok doc

theorem readField_eq_ok_iff (doc : Document) (f : String × Value) :
    (∃ doc', readField doc f = .ok doc') ↔ Good f := by
  unfold Good readField
  split
  · cases f.2.list Value.string <;> simp [bind, Except.bind, pure, Except.pure]
  · split
    · cases f.2.list Rule.ofValue <;> simp [bind, Except.bind, pure, Except.pure]
    · cases f.2.pass <;> simp [bind, Except.bind, pure, Except.pure]

variable {fields : List (String × Value)} {doc : Document} {v v' : Value}

/-- The imports and the rules that are decoded are what stands under these names. -/
theorem lookup?_of_ofFields (hnodup : (fields.map Prod.fst).Nodup)
    (h : ofFields fields = .ok doc) :
    ((∀ v, lookup? "imports" fields = some v → v.list Value.string = .ok doc.imports) ∧
      (lookup? "imports" fields = none → doc.imports = [])) ∧
    (∀ v, lookup? "rules" fields = some v → v.list Rule.ofValue = .ok doc.rules) ∧
      (lookup? "rules" fields = none → doc.rules = []) := by
  rw [ofFields_eq] at h
  refine ⟨get_foldlM Document.imports (fun {p v q} h => ?_) (fun {p f q} hf h => ?_) hnodup h,
    get_foldlM Document.rules (fun {p v q} h => ?_) (fun {p f q} hf h => ?_) hnodup h⟩
  · rw [readField, if_pos rfl] at h
    cases hv : v.list Value.string <;> rw [hv] at h <;> cases h
    rfl
  · rw [readField, if_neg hf] at h
    split at h
    · cases hv : f.2.list Rule.ofValue <;> rw [hv] at h <;> cases h
      rfl
    · cases hv : f.2.pass <;> rw [hv] at h <;> cases h
      rfl
  · rw [readField, if_neg (by simp), if_pos rfl] at h
    cases hv : v.list Rule.ofValue <;> rw [hv] at h <;> cases h
    rfl
  · unfold readField at h
    split at h
    · cases hv : f.2.list Value.string <;> rw [hv] at h <;> cases h
      rfl
    · cases hv : f.2.pass <;> rw [hv] at h <;> cases h
      rfl

/-- **A table is a document if its fields can be decoded**, and then of these two. -/
theorem ofFields_eq_ok_iff (hnodup : (fields.map Prod.fst).Nodup) :
    ofFields fields = .ok doc ↔ (∀ f ∈ fields, Good f) ∧
      ((∀ v, lookup? "imports" fields = some v → v.list Value.string = .ok doc.imports) ∧
        (lookup? "imports" fields = none → doc.imports = [])) ∧
      (∀ v, lookup? "rules" fields = some v → v.list Rule.ofValue = .ok doc.rules) ∧
        (lookup? "rules" fields = none → doc.rules = []) := by
  constructor
  · intro h
    exact ⟨(exists_foldlM_iff readField_eq_ok_iff fields ⟨[], []⟩).1 ⟨doc, h⟩,
      lookup?_of_ofFields hnodup h⟩
  · rintro ⟨hgood, ⟨himports, hnoImports⟩, hrules, hnoRules⟩
    obtain ⟨doc', hdoc'⟩ := (exists_foldlM_iff readField_eq_ok_iff fields ⟨[], []⟩).2 hgood
    obtain ⟨⟨himports', hnoImports'⟩, hrules', hnoRules'⟩ := lookup?_of_ofFields hnodup hdoc'
    have hi : doc'.imports = doc.imports := by
      cases hlookup : lookup? "imports" fields with
      | none => rw [hnoImports hlookup, hnoImports' hlookup]
      | some w => exact Except.ok.inj ((himports' w hlookup).symm.trans (himports w hlookup))
    have hr : doc'.rules = doc.rules := by
      cases hlookup : lookup? "rules" fields with
      | none => rw [hnoRules hlookup, hnoRules' hlookup]
      | some w => exact Except.ok.inj ((hrules' w hlookup).symm.trans (hrules w hlookup))
    obtain ⟨imports, rules⟩ := doc
    obtain rfl : doc' = ⟨imports, rules⟩ := by
      obtain ⟨imports', rules'⟩ := doc'
      simp only at hi hr
      rw [hi, hr]
    exact hdoc'

/-- **A document with other rules is the document with those rules.** -/
theorem ofFields_setRules {rules : List Rule} (hnodup : (fields.map Prod.fst).Nodup)
    (h : ofFields fields = .ok doc) (hv' : v'.list Rule.ofValue = .ok rules) :
    ofFields (setField "rules" v' fields) = .ok { doc with rules } := by
  obtain ⟨hgood, himports, -⟩ := (ofFields_eq_ok_iff hnodup).1 h
  refine (ofFields_eq_ok_iff (Toml.nodup_setField hnodup)).2 ⟨fun f hf => ?_, ?_, ?_⟩
  · rcases Toml.mem_setField hf with rfl | hf
    · refine ⟨⟨[], rules⟩, ?_⟩
      rw [readField, if_neg (by simp), if_pos rfl, hv']
      rfl
    · exact hgood f hf
  · rwa [Toml.lookup?_setField_of_ne (by decide)]
  · rw [Toml.lookup?_setField_self]
    exact ⟨fun v hv => Option.some.inj hv ▸ hv', nofun⟩

/-- **A document with other imports is the document with those imports.** -/
theorem ofFields_setImports {imports : List String} (hnodup : (fields.map Prod.fst).Nodup)
    (h : ofFields fields = .ok doc) (hv' : v'.list Value.string = .ok imports) :
    ofFields (setField "imports" v' fields) = .ok { doc with imports } := by
  obtain ⟨hgood, -, hrules⟩ := (ofFields_eq_ok_iff hnodup).1 h
  refine (ofFields_eq_ok_iff (Toml.nodup_setField hnodup)).2 ⟨fun f hf => ?_, ?_, ?_⟩
  · rcases Toml.mem_setField hf with rfl | hf
    · refine ⟨⟨imports, []⟩, ?_⟩
      rw [readField, if_pos rfl, hv']
      rfl
    · exact hgood f hf
  · rw [Toml.lookup?_setField_self]
    exact ⟨fun v hv => Option.some.inj hv ▸ hv', nofun⟩
  · rwa [Toml.lookup?_setField_of_ne (by decide)]

end Document

end Ruleset
end LintWorkspace
