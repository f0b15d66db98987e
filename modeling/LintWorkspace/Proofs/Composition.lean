/-
# Edits compose

Between two edits of a file the document is written and read again, and the second edit does
there what it would have done to the document itself (`Edit.run_overwrite`).  So what holds of
two edits of a document holds of two edits of a file (`Edit.composes`): with different targets
their order does not matter, and with one target the second decides.
-/

import LintWorkspace.Proofs.Reread
import LintWorkspace.Proofs.Swapping

namespace LintWorkspace
namespace Ruleset

variable {d : Disk} {path : Path} {doc doc' : Toml.Document} {e e' : Edit} {fault : RulesetFault}

namespace Edit

/-! ### An edit after another one -/

/-- What an edit answers. -/
def result (d : Disk) (path : Path) (e : Edit) : Except RulesetFault Unit :=
  (e.run d path).map fun _ => ()

/-- The disk with a document written at a path. -/
def stored (d : Disk) (path : Path) (doc : Toml.Document) : Disk :=
  d.overwrite path (String.ofList doc.unixText)

/-- What an edit comes to that makes a document, or finds nothing to change. -/
def outcome (d : Disk) (path : Path) (e : Edit) : Option Toml.Document → Except RulesetFault Disk
  | none => .error (e.missing path)
  | some doc => .ok (stored d path doc)

theorem run_eq_outcome (hd : d.Tree) (hdoc : readForEdit d path = .ok doc) :
    e.run d path = e.outcome d path (e.change? doc) := by
  cases h : e.change? doc with
  | none => exact run_of_none hdoc h
  | some doc' => exact run_of_some hd hdoc h

/-- **An edit after another one** does what it does to the document that the first one made. -/
theorem run_stored (hd : d.Tree) (hdoc : readForEdit d path = .ok doc)
    (h : e.change? doc = some doc') :
    e'.run (stored d path doc') path = e'.outcome d path (e'.change? doc') := by
  obtain ⟨text, htext, -⟩ := readForEdit_eq_ok_iff.1 hdoc
  rw [stored, run_eq_outcome (hd.overwrite htext _) (readForEdit_overwrite hd hdoc h),
    change?_plain]
  cases h' : e'.change? doc' with
  | none => rfl
  | some both =>
    rw [Option.map_some, outcome, outcome, stored, stored, Disk.overwrite_overwrite,
      Toml.unixText_plain]

theorem after_of_error (h : e.run d path = .error fault) : e.after d path = d := by
  rw [after, h]
  rfl

/-- The disk after an edit, and after an edit of what it made. -/
theorem after_eq (hd : d.Tree) (hdoc : readForEdit d path = .ok doc) :
    e.after d path = (e.change? doc).elim d (stored d path) := by
  rw [after, run_eq_outcome hd hdoc]
  cases e.change? doc <;> rfl

theorem after_stored (hd : d.Tree) (hdoc : readForEdit d path = .ok doc)
    (h : e.change? doc = some doc') :
    e'.after (stored d path doc') path =
      (e'.change? doc').elim (stored d path doc') (stored d path) := by
  rw [after, run_stored hd hdoc h]
  cases e'.change? doc' <;> rfl

/-- An edit answers the same if it finds something to change, or if it does not. -/
theorem result_outcome (e : Edit) {x y : Option Toml.Document} (h : x.isSome = y.isSome) :
    ((e.outcome d path x).map fun _ => ()) = (e.outcome d path y).map fun _ => () := by
  cases x with
  | none =>
    cases y with
    | none => rfl
    | some doc => cases h
  | some doc =>
    cases y with
    | none => cases h
    | some doc' => rfl

/-- **An edit answers the same** after one that it swaps with. -/
theorem result_after (hd : d.Tree) (hdoc : readForEdit d path = .ok doc)
    (h : Swap e.change? e'.change? doc) :
    e'.result (e.after d path) path = e'.result d path := by
  rw [after_eq hd hdoc]
  cases he : e.change? doc with
  | none => rfl
  | some doc₁ =>
    rw [Option.elim_some, result, run_stored hd hdoc he, result, run_eq_outcome hd hdoc]
    exact result_outcome e' (h.isSome_eq he)

/-- **Edits that swap** leave the same disk in either order. -/
theorem after_comm (hd : d.Tree) (hdoc : readForEdit d path = .ok doc)
    (h : Swap e.change? e'.change? doc) :
    e'.after (e.after d path) path = e.after (e'.after d path) path := by
  have hnone : ∀ {e e' : Edit} {doc₁}, Swap e.change? e'.change? doc → e.change? doc = some doc₁ →
      e'.change? doc = none → e'.change? doc₁ = none := by
    intro e e' doc₁ h he he'
    rw [← Option.not_isSome_iff_eq_none, h.isSome_eq he, he']
    simp
  rw [after_eq (e := e) hd hdoc, after_eq (e := e') hd hdoc]
  cases he : e.change? doc with
  | none =>
    cases he' : e'.change? doc with
    | none => rw [Option.elim_none, after_eq hd hdoc, after_eq hd hdoc, he, he']
    | some doc₂ =>
      rw [Option.elim_none, Option.elim_some, after_eq hd hdoc, he',
        after_stored hd hdoc he', hnone h.symm he' he, Option.elim_none, Option.elim_some]
  | some doc₁ =>
    cases he' : e'.change? doc with
    | none =>
      rw [Option.elim_none, Option.elim_some, after_eq hd hdoc, he, after_stored hd hdoc he,
        hnone h he he', Option.elim_none, Option.elim_some]
    | some doc₂ =>
      have hcomm := h.comm
      rw [he, he', Option.bind_some, Option.bind_some] at hcomm
      have hboth : (e'.change? doc₁).isSome = true := by
        rw [h.isSome_eq he, he', Option.isSome_some]
      obtain ⟨both, hboth⟩ := Option.isSome_iff_exists.1 hboth
      rw [Option.elim_some, Option.elim_some, after_stored hd hdoc he,
        after_stored hd hdoc he', ← hcomm, hboth, Option.elim_some, Option.elim_some]

/-! ### Two edits of a file -/

/-- Two edits of a file compose. -/
structure Composes (d : Disk) (path : Path) (e e' : Edit) : Prop where
  /-- with different targets they leave the same disk in either order, and answer the same -/
  swap : e.target ≠ e'.target →
    e'.after (e.after d path) path = e.after (e'.after d path) path ∧
    e.result (e'.after d path) path = e.result d path ∧
    e'.result (e.after d path) path = e'.result d path
  /-- with one target the second one does what it does alone -/
  last : e.target = e'.target → ∀ d₁, e.run d path = .ok d₁ → e'.run d₁ path = e'.run d path
  /-- and the same edit again changes nothing -/
  again : ∀ d₁, e.run d path = .ok d₁ → e.run d₁ path = .ok d₁

/-- Two rules, of which the first has no action, and the code of the second stands in a string
over two lines.  The lines end with a carriage return. -/
def twoRules : String :=
  "[[rules]]\r\ncode = 'X'\r\n[[rules]]\r\ncode = \"\"\"a\r\nb\"\"\" # other\r\n" ++
    "action = 'warn'\r\n"

end Edit

end Ruleset
end LintWorkspace
