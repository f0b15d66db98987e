/-
# The trail of a path

The places that a path passes, from where it starts to its end, are its trail.  The parent of a
path has the trail of the path without its end (`parent?_cases`), so to go from parent to parent
is to go back along the trail:

| path | trail |
| --- | --- |
| `/a/b` | `/`, `/a`, `/a/b` |
| `/a/../b` | `/`, `/a`, `/`, `/b` |
| `a`, read in `/w` | `/w`, `/w/a` |

The trail of a relative path starts at the working directory and knows nothing of what is above
it.  A path is open, so that names behind it are looked up at its end, if every place of its
trail is a directory (`opens_iff`).
-/

import LintWorkspace.Proofs.Entrance

namespace LintWorkspace

namespace Path

variable {p q : Path} {cwd l m : Location} {segments rest : List String} {s : String}

/-! ### Segments that ask for something -/

/-- The segments of a list that are not idle. -/
def asking (segments : List String) : List String := segments.filter fun s => !isIdle s

theorem asking_of_idle {idle : List String} (hidle : ∀ s ∈ idle, isIdle s = true) :
    asking idle = [] := by
  simpa [asking] using hidle

theorem asking_append (xs ys : List String) : asking (xs ++ ys) = asking xs ++ asking ys :=
  List.filter_append ..

theorem asking_dropIdleEnd (segments : List String) :
    asking (dropIdleEnd segments) = asking segments := by
  obtain ⟨idle, heq, hidle⟩ := exists_idle_end segments
  conv => rhs; rw [heq, asking_append, asking_of_idle hidle, List.append_nil]

/-- What is left of segments without the last one that is not idle. -/
theorem exists_asking_concat (hne : dropIdleEnd segments ≠ []) : ∃ s,
    asking segments = asking (dropIdleEnd (dropIdleEnd segments).dropLast) ++ [s] := by
  obtain ⟨front, s, hbody, hlast⟩ := exists_asking_dropIdleEnd hne
  refine ⟨s, ?_⟩
  rw [← asking_dropIdleEnd segments, hbody, List.dropLast_concat, asking_dropIdleEnd,
    asking_append]
  simp [asking, hlast]

theorem foldl_asking (segments : List String) (l : Location) :
    (asking segments).foldl Disk.enterSegment l = segments.foldl Disk.enterSegment l := by
  induction segments generalizing l with
  | nil => rfl
  | cons s rest ih =>
    by_cases hs : isIdle s = true
    · rw [List.foldl_cons, enterSegment_idle hs, ← ih, asking,
        List.filter_cons_of_neg (by simp [hs])]
      rfl
    · rw [List.foldl_cons, ← ih, asking, List.filter_cons_of_pos (by simpa using hs)]
      rfl

/-- Idle segments pass no new place. -/
theorem mem_passed_asking (segments : List String) (l : Location) :
    m ∈ Disk.passed l (asking segments) ↔ m ∈ Disk.passed l segments := by
  induction segments generalizing l with
  | nil => rfl
  | cons s rest ih =>
    by_cases hs : isIdle s = true
    · rw [asking, List.filter_cons_of_neg (by simp [hs]), Disk.passed, enterSegment_idle hs,
        List.mem_cons, ← ih, asking, or_iff_right_of_imp]
      rintro rfl
      exact Disk.mem_passed_self _ _
    · rw [asking, List.filter_cons_of_pos (by simpa using hs), Disk.passed, Disk.passed,
        List.mem_cons, List.mem_cons, ← ih, asking]

/-! ### The steps of a path -/

/-- The ways in which a path can start. -/
inductive Start : Path → Prop
  | nothing : Start ⟨[]⟩
  | empty : Start ⟨[""]⟩
  | root (s : String) (rest : List String) : Start ⟨"" :: s :: rest⟩
  | dot (rest : List String) : Start ⟨"." :: rest⟩
  | plain (s : String) (rest : List String) (hroot : s ≠ "") (hdot : s ≠ ".") : Start ⟨s :: rest⟩

theorem start (p : Path) : Start p := by
  obtain ⟨segments⟩ := p
  cases segments with
  | nil => exact .nothing
  | cons s rest =>
    by_cases hroot : s = ""
    · subst hroot
      cases rest with
      | nil => exact .empty
      | cons s rest => exact .root s rest
    · by_cases hdot : s = "."
      · exact hdot ▸ .dot rest
      · exact .plain s rest hroot hdot

/-- Where a path starts from. -/
def base (cwd : Location) (p : Path) : Location := if p.isAbsolute then .root else cwd

/-- What a path asks for from there on: its segments that are not idle, and a dot at the start
of a relative path. -/
def steps (p : Path) : List String :=
  match p.segments with
  | "" :: s :: rest => asking (s :: rest)
  | "." :: rest => "." :: asking rest
  | segments => asking segments

theorem steps_root : steps ⟨"" :: s :: rest⟩ = asking (s :: rest) := rfl

theorem steps_dot : steps ⟨"." :: rest⟩ = "." :: asking rest := rfl

theorem steps_plain (hroot : s ≠ "") (hdot : s ≠ ".") :
    steps ⟨s :: rest⟩ = asking (s :: rest) := by
  unfold steps
  split
  · rename_i hp
    exact absurd (List.cons.inj hp).1 hroot
  · rename_i hp
    exact absurd (List.cons.inj hp).1 hdot
  · rfl

theorem not_isAbsolute_cons (hs : s ≠ "") : isAbsolute ⟨s :: rest⟩ = false := by
  cases rest <;> simp [isAbsolute, hs]

/-- A path leads where its steps lead. -/
theorem normalize_eq_steps (cwd : Location) (p : Path) :
    p.normalize cwd = p.steps.foldl Disk.enterSegment (p.base cwd) := by
  rw [normalize_eq_foldl_enterSegment, base]
  cases start p with
  | nothing => rfl
  | empty => rfl
  | root s rest =>
    rw [steps_root, foldl_asking, List.foldl_cons, enterSegment_idle (by decide)]
  | dot rest => rw [steps_dot, List.foldl_cons, List.foldl_cons, foldl_asking]
  | plain s rest hroot hdot => rw [steps_plain hroot hdot, foldl_asking]

theorem parent?_plain (hroot : s ≠ "") (hdot : s ≠ ".") : parent? ⟨s :: rest⟩ =
    match dropIdleEnd (s :: rest) with
    | [] => none
    | body => match dropIdleEnd body.dropLast with
      | [] => some ⟨[""]⟩
      | above => some ⟨above⟩ := by
  unfold parent?
  split
  · rename_i hp
    exact absurd (List.cons.inj hp).1 hroot
  · rename_i hp
    exact absurd (List.cons.inj hp).1 hdot
  · rfl

/-- The parent of a path starts where the path does and takes one step less; a path that takes
no steps has no parent. -/
theorem parent?_steps (p : Path) : (p.parent? = none ∧ p.steps = []) ∨
    ∃ q s, p.parent? = some q ∧ q.isAbsolute = p.isAbsolute ∧ p.steps = q.steps ++ [s] := by
  have hidle : ∀ {segments : List String}, dropIdleEnd segments = [] → asking segments = [] :=
    fun h => by rw [← asking_dropIdleEnd, h]; rfl
  cases start p with
  | nothing => exact .inl ⟨rfl, rfl⟩
  | empty => exact .inl ⟨rfl, rfl⟩
  | root s rest =>
    rw [steps_root]
    simp only [parent?]
    cases hbody : dropIdleEnd (s :: rest) with
    | nil => exact .inl ⟨rfl, hidle hbody⟩
    | cons y ys =>
      obtain ⟨t, hsteps⟩ := exists_asking_concat (hbody ▸ List.cons_ne_nil y ys)
      rw [hbody] at hsteps
      right
      cases habove : dropIdleEnd (y :: ys).dropLast with
      | nil => exact ⟨⟨["", ""]⟩, t, by simp [habove], rfl, by rw [hsteps, habove]; rfl⟩
      | cons z zs => exact ⟨⟨"" :: z :: zs⟩, t, by simp [habove], rfl, by rw [hsteps, habove]; rfl⟩
  | dot rest =>
    have hrelative : ∀ rest : List String, isAbsolute ⟨"." :: rest⟩ = false := fun _ =>
      not_isAbsolute_cons (by decide)
    right
    rw [steps_dot]
    simp only [parent?]
    cases hbody : dropIdleEnd rest with
    | nil => exact ⟨⟨[""]⟩, ".", rfl, (hrelative rest).symm, by rw [hidle hbody]; rfl⟩
    | cons y ys =>
      obtain ⟨t, hsteps⟩ := exists_asking_concat (hbody ▸ List.cons_ne_nil y ys)
      rw [hbody] at hsteps
      exact ⟨⟨"." :: dropIdleEnd (y :: ys).dropLast⟩, t, rfl,
        (hrelative _).trans (hrelative rest).symm, by rw [hsteps]; rfl⟩
  | plain s rest hroot hdot =>
    rw [parent?_plain hroot hdot, steps_plain hroot hdot, not_isAbsolute_cons hroot]
    cases hbody : dropIdleEnd (s :: rest) with
    | nil => exact .inl ⟨rfl, hidle hbody⟩
    | cons y ys =>
      obtain ⟨t, hsteps⟩ := exists_asking_concat (hbody ▸ List.cons_ne_nil y ys)
      rw [hbody] at hsteps
      right
      cases habove : dropIdleEnd (y :: ys).dropLast with
      | nil => exact ⟨⟨[""]⟩, t, by simp [habove], rfl, by rw [hsteps, habove]; rfl⟩
      | cons z zs =>
        -- what is left starts as the path does
        have hinitial := initial_dropIdleEnd_dropLast (s :: rest)
        rw [hbody, habove] at hinitial
        obtain rfl := (List.cons_prefix_cons.1 hinitial).1
        exact ⟨⟨z :: zs⟩, t, by simp [habove], not_isAbsolute_cons hroot,
          by rw [hsteps, habove, steps_plain hroot hdot]⟩

/-! ### Places on the way -/

/-- The places that a path passes, from its start to its end. -/
def trail (cwd : Location) (p : Path) : List Location := Disk.passed (p.base cwd) p.steps

theorem passed_concat (l : Location) (segments : List String) (s : String) :
    Disk.passed l (segments ++ [s]) =
      Disk.passed l segments ++ [(segments ++ [s]).foldl Disk.enterSegment l] := by
  induction segments generalizing l with
  | nil => rfl
  | cons t rest ih =>
    rw [List.cons_append, Disk.passed, Disk.passed, ih]
    rfl

/-- **The parent of a path has the trail of the path without its end.** -/
theorem parent?_trail (cwd : Location) (p : Path) :
    (p.parent? = none ∧ p.trail cwd = [p.normalize cwd]) ∨
      ∃ q, p.parent? = some q ∧ p.steps.length = q.steps.length + 1 ∧
        p.trail cwd = q.trail cwd ++ [p.normalize cwd] := by
  rcases parent?_steps p with ⟨hnone, hsteps⟩ | ⟨q, s, hq, habsolute, hsteps⟩
  · left
    rw [trail, normalize_eq_steps, hsteps]
    exact ⟨hnone, rfl⟩
  · right
    refine ⟨q, hq, by rw [hsteps, List.length_append, List.length_singleton], ?_⟩
    rw [trail, normalize_eq_steps, hsteps, passed_concat, trail, base, base, habsolute]

/-- The steps of a path are among its segments. -/
theorem length_steps_le (p : Path) : p.steps.length ≤ p.segments.length := by
  have hle : ∀ segments, (asking segments).length ≤ segments.length := fun _ =>
    List.length_filter_le ..
  cases start p with
  | nothing => exact Nat.le_refl _
  | empty => exact Nat.zero_le _
  | root s rest => exact (hle (s :: rest)).trans (Nat.le_succ _)
  | dot rest => exact Nat.succ_le_succ (hle rest)
  | plain s rest hroot hdot => exact steps_plain hroot hdot ▸ hle (s :: rest)

/-- A path that does not go up passes only what is above its end. -/
theorem isWithin_of_mem_trail (hup : ".." ∉ p.segments) (hm : m ∈ p.trail cwd) :
    (p.normalize cwd).isWithin m = true := by
  have hsteps : ".." ∉ p.steps := by
    have hasking : ∀ {segments}, ".." ∉ segments → ".." ∉ asking segments := fun h hmem =>
      h (List.mem_of_mem_filter hmem)
    cases start p with
    | nothing => simp [steps, asking]
    | empty => decide
    | root s rest => exact hasking fun hmem => hup (List.mem_cons_of_mem _ hmem)
    | dot rest =>
      rw [steps_dot, List.mem_cons, not_or]
      exact ⟨by decide, hasking fun hmem => hup (List.mem_cons_of_mem _ hmem)⟩
    | plain s rest hroot hdot => exact steps_plain hroot hdot ▸ hasking hup
  rw [normalize_eq_steps]
  exact (Disk.isWithin_of_mem_passed_of_not_up hsteps hm).1

/-- A name is joined to the segments of a path, less an idle one at the end. -/
theorem exists_lead_cons (s : String) (rest : List String) (hne : s ≠ "" ∨ rest ≠ []) :
    ∃ xs, lead ⟨s :: rest⟩ = s :: xs ∧ asking xs = asking rest := by
  have hempty : isEmpty ⟨s :: rest⟩ = false := by
    rcases hne with hs | hrest
    · simp [isEmpty, hs]
    · simp [isEmpty, hrest]
  rw [lead, hempty, if_neg Bool.false_ne_true]
  split
  · rename_i hlast
    obtain ⟨front, hfront⟩ := List.getLast?_eq_some_iff.1 hlast
    simp only at hfront ⊢
    rw [hfront, List.dropLast_concat]
    cases front with
    | nil =>
      obtain ⟨hs, hrest⟩ := List.cons.inj hfront
      exact absurd hne (by simp [hs, hrest])
    | cons x xs =>
      obtain ⟨hs, hrest⟩ := List.cons.inj hfront
      refine ⟨xs, by rw [hs], ?_⟩
      rw [hrest]
      exact ((asking_append xs [""]).trans (List.append_nil _)).symm
  · exact ⟨rest, rfl, rfl⟩

end Path

/-! ### Open paths -/

namespace Disk

variable {d : Disk} {p : Path} {l m : Location} {segments : List String}

/-- A last segment is entered if all places before it are directories. -/
theorem follow_concat_iff (s : String) : (∃ m, d.follow l (segments ++ [s]) = .ok m) ↔
    ∀ m ∈ passed l segments, d.entryAt m = some .directory := by
  induction segments generalizing l with
  | nil =>
    rw [List.nil_append, follow, passed, List.forall_mem_singleton]
    cases hl : d.entryAt l with
    | none => simp
    | some entry => cases entry <;> simp [follow]
  | cons t rest ih =>
    rw [List.cons_append, follow, passed, List.forall_mem_cons, ← ih]
    cases hl : d.entryAt l with
    | none => simp
    | some entry => cases entry <;> simp

/-- A name behind a path is looked up at the end of the way of the path. -/
theorem exists_lead (cwd : Location) (p : Path) : ∃ segments,
    (∀ l m, m ∈ passed l segments ↔ m ∈ passed l p.steps) ∧
      ∀ (d : Disk) (n : Name), d.cwd = cwd →
        d.locate (p.join ⟨[n.text]⟩) = d.follow (p.base cwd) (segments ++ [n.text]) := by
  have hrelative : ∀ {s : String} {rest : List String}, s ≠ "" →
      Path.base cwd ⟨s :: rest⟩ = cwd := fun hs => by
    rw [Path.base, Path.not_isAbsolute_cons hs, if_neg Bool.false_ne_true]
  cases p.start with
  | nothing =>
    refine ⟨[], fun _ _ => Iff.rfl, fun d n hd => ?_⟩
    rw [Path.join_name]
    exact hd ▸ locate_relative n.legal.1
  | empty =>
    refine ⟨[], fun _ _ => Iff.rfl, fun d n hd => ?_⟩
    rw [Path.join_name]
    exact hd ▸ locate_relative n.legal.1
  | root s rest =>
    obtain ⟨xs, hlead, hasking⟩ :=
      Path.exists_lead_cons "" (s :: rest) (.inr (List.cons_ne_nil s rest))
    refine ⟨xs, fun l m => ?_, fun d n _ => ?_⟩
    · rw [Path.steps_root, ← hasking, Path.mem_passed_asking]
    · rw [Path.join_name, hlead]
      cases xs <;> rfl
  | dot rest =>
    obtain ⟨xs, hlead, hasking⟩ := Path.exists_lead_cons "." rest (.inl (by decide))
    refine ⟨"." :: xs, fun l m => ?_, fun d n hd => ?_⟩
    · rw [Path.steps_dot, ← hasking, passed, passed, List.mem_cons, List.mem_cons,
        Path.mem_passed_asking]
    · rw [Path.join_name, hlead, hrelative (by decide), ← hd]
      exact locate_relative (by decide)
  | plain s rest hroot hdot =>
    obtain ⟨xs, hlead, hasking⟩ := Path.exists_lead_cons s rest (.inl hroot)
    refine ⟨s :: xs, fun l m => ?_, fun d n hd => ?_⟩
    · have hall : Path.asking (s :: xs) = Path.asking (s :: rest) := by
        rw [← List.singleton_append, Path.asking_append, hasking, ← Path.asking_append]
        rfl
      rw [Path.steps_plain hroot hdot, ← hall, Path.mem_passed_asking]
    · rw [Path.join_name, hlead, hrelative hroot, ← hd]
      exact locate_relative hroot

/-- **A path is open if every place of its trail is a directory.** -/
theorem opens_iff : Opens d p ↔ ∀ m ∈ p.trail d.cwd, d.entryAt m = some .directory := by
  obtain ⟨segments, hsame, hlocate⟩ := exists_lead d.cwd p
  have htrail : ∀ n : Name, (∃ m, d.locate (p.join ⟨[n.text]⟩) = .ok m) ↔
      ∀ m ∈ p.trail d.cwd, d.entryAt m = some .directory := fun n => by
    rw [hlocate d n rfl, follow_concat_iff]
    simp only [hsame, Path.trail]
  constructor
  · intro h
    exact (htrail ⟨"x", by decide⟩).1 ⟨_, h.locate_eq _⟩
  · intro h
    obtain ⟨m, hm⟩ := (htrail ⟨"x", by decide⟩).2 h
    exact opens_of_locate hm

end Disk
end LintWorkspace
