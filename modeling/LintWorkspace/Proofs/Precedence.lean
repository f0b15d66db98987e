/-
# Who has the last word

`consult` resolves a document without keeping anything: whenever a document is
imported it is read again and everything below it is consulted again.  All it knows
is the chain of imports that leads to the document.

A resolution keeps what finished documents say, and gives the same answer
(`resolve_eq_consult`), the same fault included.  What a document said under one
chain holds under every chain apart from what was finished by then (`Kept`): below
it there are finished documents only, so neither a cycle nor another order of
faults can show up.

What a document says about a code is the action of its last rule for the code, or
else what its last import says that knows the code (`hasLastWord_of_consult`).
-/

import LintWorkspace.Proofs.Reach
import Mathlib.Data.List.Forall2

namespace LintWorkspace
namespace Ruleset

variable {d : Disk} {chain chain' ls : List Location} {l : Location} {m n k : Severities}
  {p q : Progress} {doc : Document} {out : Except RulesetFault Severities} {fault : RulesetFault}

/-- The files of a disk that are not on a chain. -/
def unvisited (d : Disk) (chain : List Location) : List Location :=
  (d.entries.map Prod.fst).filter (· ∉ chain)

theorem length_unvisited_lt (hmem : l ∉ chain) (hread : Document.read d l = .ok doc) :
    (unvisited d (chain ++ [l])).length < (unvisited d chain).length := by
  have hsplit : unvisited d (chain ++ [l]) = (unvisited d chain).filter (· ≠ l) := by
    rw [unvisited, unvisited, List.filter_filter]
    refine List.filter_congr fun x _ => ?_
    simp [and_comm]
  rw [hsplit]
  refine List.length_filter_lt_length_iff_exists.2 ⟨l, ?_, by simp⟩
  exact List.mem_filter.2 ⟨mem_of_read hread, by simpa using hmem⟩

/-- What a document says that is reached along a chain of imports: what its imports say,
later ones over earlier ones, and its own rules over that. -/
def consult (d : Disk) (chain : List Location) (l : Location) : Except RulesetFault Severities :=
  if _ : l ∈ chain then .error (.cycle (chain.dropWhile (· ≠ l) ++ [l]))
  else match _ : Document.read d l with
    | .error fault => .error fault
    | .ok doc => do
      let below ← (targets l doc).foldlM (fun m t =>
        return m.merge (← consult d (chain ++ [l]) t)) ∅
      applyRules l doc.rules below
termination_by (unvisited d chain).length
decreasing_by exact length_unvisited_lt ‹_› ‹_›

/-- What documents say together, laid over a table. -/
def consultAll (d : Disk) (chain ls : List Location) (m : Severities) :
    Except RulesetFault Severities :=
  ls.foldlM (fun m t => return m.merge (← consult d chain t)) m

theorem consult_of_mem (hmem : l ∈ chain) :
    consult d chain l = .error (.cycle (chain.dropWhile (· ≠ l) ++ [l])) := by
  rw [consult, dif_pos hmem]

theorem consult_of_read_eq_error (hmem : l ∉ chain) (hread : Document.read d l = .error fault) :
    consult d chain l = .error fault := by
  rw [consult, dif_neg hmem]
  split
  · rename_i fault' hread'
    rw [Except.error.inj (hread'.symm.trans hread)]
  · simp_all

theorem consult_of_read_eq_ok (hmem : l ∉ chain) (hread : Document.read d l = .ok doc) :
    consult d chain l =
      (consultAll d (chain ++ [l]) (targets l doc) ∅).bind (applyRules l doc.rules) := by
  rw [consult, dif_neg hmem]
  split
  · simp_all
  · rename_i doc' hread'
    obtain rfl := Except.ok.inj (hread'.symm.trans hread)
    rfl

theorem consultAll_cons :
    consultAll d chain (l :: ls) m =
      (consult d chain l).bind fun n => consultAll d chain ls (m.merge n) := by
  rw [consultAll, List.foldlM_cons]
  cases consult d chain l <;> rfl

theorem consultAll_of_eq_error (h : consult d chain l = .error fault) :
    consultAll d chain (l :: ls) m = .error fault := by
  rw [consultAll_cons, h]
  rfl

theorem consultAll_of_eq_ok (h : consult d chain l = .ok n) :
    consultAll d chain (l :: ls) m = consultAll d chain ls (m.merge n) := by
  rw [consultAll_cons, h]
  rfl

/-- Documents that say the same along two chains say the same together. -/
theorem consultAll_congr (h : ∀ t ∈ ls, consult d chain' t = consult d chain t) :
    consultAll d chain' ls m = consultAll d chain ls m := by
  induction ls generalizing m with
  | nil => rfl
  | cons t ls ih =>
    rw [consultAll_cons, consultAll_cons, h t List.mem_cons_self]
    congr 1
    funext n
    exact ih fun t ht => h t (List.mem_cons_of_mem _ ht)

/-! ### What is kept -/

/-- What is kept for a document is what it says, whichever chain leads to it that passes
nothing finished. -/
def Kept (d : Disk) (p : Progress) : Prop :=
  ∀ l n, p.done.lookup l = some n →
    ∀ chain, (∀ x ∈ chain, x ∉ p.settled) → consult d chain l = .ok n

/-- What is kept stays right when one more document is finished. -/
theorem Kept.finish (h : Kept d q) (hsound : Sound d (chain ++ [l]) q) (hmem : l ∉ chain)
    (hread : Document.read d l = .ok doc) (hbelow : targets l doc ⊆ q.settled)
    (hl : consult d chain l = .ok n) : Kept d (q.finish l n) := by
  intro x k hx chain' hapart
  have hapart' : ∀ y ∈ chain', y ∉ q.settled := fun y hy hdone =>
    hapart y hy (by simp [hdone])
  by_cases hxl : x = l
  · subst hxl
    obtain rfl : n = k := by simpa [Progress.finish] using hx
    have hmem' : x ∉ chain' := fun hx => hapart x hx (by simp)
    -- all that the document imports is finished, so either chain finds it as it was kept
    have hsame : ∀ t ∈ targets x doc, consult d (chain' ++ [x]) t = consult d (chain ++ [x]) t := by
      intro t ht
      obtain ⟨v, hv⟩ : ∃ v, q.done.lookup t = some v := by
        cases hlookup : q.done.lookup t with
        | none => exact absurd (hbelow ht) (lookup_eq_none_iff.1 hlookup)
        | some v => exact ⟨v, rfl⟩
      rw [h t v hv (chain ++ [x]) hsound.apart, h t v hv (chain' ++ [x]) fun y hy => ?_]
      rcases List.mem_append.1 hy with hy | hy
      · exact hapart' y hy
      · exact hsound.apart y (List.mem_append_right _ hy)
    rw [consult_of_read_eq_ok hmem' hread, consultAll_congr hsame,
      ← consult_of_read_eq_ok hmem hread, hl]
  · refine h x k ?_ chain' hapart'
    rwa [Progress.finish, List.lookup_cons, beq_false_of_ne hxl] at hx

/-- **Visits find what consulting finds,** and what they keep is right. -/
theorem Visits.eq_consultAll (h : Visits d chain ls m p out q) (hp : Sound d chain p)
    (hkept : Kept d p) : out = consultAll d chain ls m ∧ ∀ n, out = .ok n → Kept d q := by
  induction h with
  | none => exact ⟨rfl, fun _ _ => hkept⟩
  | again hdone _ ih =>
    rw [consultAll_of_eq_ok (hkept _ _ hdone _ hp.apart)]
    exact ih hp hkept
  | cycle _ hmem => exact ⟨(consultAll_of_eq_error (consult_of_mem hmem)).symm, nofun⟩
  | unreadable _ hmem hread =>
    exact ⟨(consultAll_of_eq_error (consult_of_read_eq_error hmem hread)).symm, nofun⟩
  | broken hnew hmem hread _ ih =>
    refine ⟨(consultAll_of_eq_error ?_).symm, nofun⟩
    rw [consult_of_read_eq_ok hmem hread, ← (ih (hp.reach hnew hmem) hkept).1]
    rfl
  | unruly hnew hmem hread _ hrules ih =>
    refine ⟨(consultAll_of_eq_error ?_).symm, nofun⟩
    rw [consult_of_read_eq_ok hmem hread, ← (ih (hp.reach hnew hmem) hkept).1]
    exact hrules
  | @settled chain l ls m n below p q q' out doc hnew hmem hread hbelow hrules _ ih ihrest =>
    have hreach := hp.reach hnew hmem
    obtain ⟨hagree, hkeptq⟩ := ih hreach hkept
    obtain ⟨hsound, hsubset⟩ := (hbelow.sound hreach).2 _ rfl
    have hl : consult d chain l = .ok n := by
      rw [consult_of_read_eq_ok hmem hread, ← hagree]
      exact hrules
    rw [consultAll_of_eq_ok hl]
    exact ihrest (hsound.finish n hmem hread hsubset)
      ((hkeptq _ rfl).finish hsound hmem hread hsubset hl)

/-! ### What is said about a code -/

/-- The action of the last rule for a code decides, and codes without a rule stay as they
are. -/
theorem find?_applyRules {rules : List Rule} {below : Severities}
    (h : applyRules l rules below = .ok m) (code : String) :
    m.find? code =
      match rules.reverse.find? (·.code = code) with
      | some rule => (Severity.ofText rule.action).toOption
      | none => below.find? code := by
  induction rules generalizing below with
  | nil => rw [← Except.ok.inj h]; rfl
  | cons rule rules ih =>
    rw [applyRules_cons] at h
    cases hs : Severity.ofText rule.action with
    | error cause => simp [hs] at h
    | ok s =>
      rw [hs] at h
      rw [ih h, List.reverse_cons, List.find?_append]
      cases rules.reverse.find? (·.code = code) with
      | some last => rfl
      | none =>
        by_cases hcode : rule.code = code
        · simp [hcode, hs, Except.toOption, SortedMap.find?_insert]
        · simp [hcode, SortedMap.find?_insert]

/-- Of documents that say something together the last one decides that knows the code. -/
theorem find?_consultAll (h : consultAll d chain ls m = .ok k) :
    ∃ said, List.Forall₂ (fun t n => consult d chain t = .ok n) ls said ∧
      ∀ code, k.find? code =
        (said.reverse.findSome? fun n => n.find? code).or (m.find? code) := by
  induction ls generalizing m with
  | nil => exact ⟨[], .nil, fun code => by rw [← Except.ok.inj h]; rfl⟩
  | cons t ls ih =>
    cases ht : consult d chain t with
    | error fault => simp [consultAll_of_eq_error ht] at h
    | ok n =>
      rw [consultAll_of_eq_ok ht] at h
      obtain ⟨said, hsaid, hfind⟩ := ih h
      refine ⟨n :: said, .cons ht hsaid, fun code => ?_⟩
      rw [hfind, SortedMap.find?_merge, List.reverse_cons, List.findSome?_append,
        Option.or_assoc]
      cases hn : n.find? code <;> simp [hn]

/-- A document has the last word on what it builds on: what it says about a code is the
action of its last rule for the code, or else what its last import says that knows it. -/
def HasLastWord (d : Disk) (chain : List Location) (l : Location) (m : Severities) : Prop :=
  ∃ doc said, Document.read d l = .ok doc ∧
    List.Forall₂ (fun t n => consult d (chain ++ [l]) t = .ok n) (targets l doc) said ∧
    ∀ code, m.find? code =
      match doc.rules.reverse.find? (·.code = code) with
      | some rule => (Severity.ofText rule.action).toOption
      | none => said.reverse.findSome? fun n => n.find? code

/-- **Every document has the last word** on what it builds on. -/
theorem hasLastWord_of_consult (h : consult d chain l = .ok m) : HasLastWord d chain l m := by
  by_cases hmem : l ∈ chain
  · simp [consult_of_mem hmem] at h
  · cases hread : Document.read d l with
    | error fault => simp [consult_of_read_eq_error hmem hread] at h
    | ok doc =>
      rw [consult_of_read_eq_ok hmem hread] at h
      obtain ⟨below, hbelow, h⟩ := bind_eq_ok_iff.1 h
      obtain ⟨said, hsaid, hfind⟩ := find?_consultAll hbelow
      refine ⟨doc, said, hread, hsaid, fun code => ?_⟩
      rw [find?_applyRules h, hfind]
      cases doc.rules.reverse.find? (·.code = code) with
      | some rule => rfl
      | none => exact Option.or_none

/-- **What a resolution keeps does not change what it finds.**  It says what consulting the
root says, and fails where and as consulting fails; and along whatever chain a document is
consulted, it has the last word on what it builds on. -/
theorem resolve_eq_consult (d : Disk) (root : Location) :
    (resolve d root).1.map Resolved.severities = consult d [] root ∧
    ∀ chain l m, consult d chain l = .ok m → HasLastWord d chain l m := by
  refine ⟨?_, fun chain l m => hasLastWord_of_consult⟩
  obtain ⟨q, hcourse, -⟩ := visits_resolve d root
  rw [(hcourse.eq_consultAll (sound_nil d) (fun l n h => by simp at h)).1, consultAll_cons]
  cases consult d [] root with
  | error fault => rfl
  | ok m => exact congrArg Except.ok (merge_empty_left m)

/-- In the diamond the root has the last word on one code, and its second import on the
other. -/
theorem consult_diamond :
    ∃ m, consult diamond [] (place "/a") = .ok m ∧ HasLastWord diamond [] (place "/a") m ∧
      m.find? "X" = some .warn ∧ m.find? "Y" = some .hidden := by
  have hfound : (resolve diamond (place "/a")).1.toOption.any (fun r =>
      r.severities.find? "X" = some .warn ∧ r.severities.find? "Y" = some .hidden) = true := by
    decide +kernel
  obtain ⟨hconsult, hword⟩ := resolve_eq_consult diamond (place "/a")
  cases hr : (resolve diamond (place "/a")).1 with
  | error fault => simp [hr, Except.toOption] at hfound
  | ok r =>
    rw [hr] at hconsult hfound
    have hm : consult diamond [] (place "/a") = .ok r.severities := hconsult.symm
    exact ⟨r.severities, hm, hword _ _ _ hm, by simpa [Except.toOption] using hfound⟩

end Ruleset
end LintWorkspace
