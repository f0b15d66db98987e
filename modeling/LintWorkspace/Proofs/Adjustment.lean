/-
# Adjusting one code

A caller sets the action of a code in a document of a ruleset and then reports that the
document was modified (`Adjusts`).  A project that stood idle on that ruleset (`Settled`) is
reloaded once, for its ruleset alone.  It ends idle with a new version of its snapshot in which
no other code has another severity, and what reads as before has the same diagnostics but for
that code (`adjusts_one_code`).

The report reloads other projects as well, and those that come first may copy analyzers.  A
ruleset that imports from the staging tree can change by that before it is resolved again
(`not_adjustsOneCode`).  So the documents have to read, when the reload ends, as the edit has
left them (`Undisturbed`), as those outside the staging tree do (`undisturbed_of_unstaged`).
-/

import LintWorkspace.Proofs.Diagnosis
import LintWorkspace.Proofs.Unstaged

namespace LintWorkspace

namespace Project

variable {o : Options} {F G : Disk} {s : Snapshot} {code : String} {sev : Severity}

/-- A ruleset whose documents are rewritten has the same documents and gives the
same severity to every other code. -/
theorem rulesetFrom_regraded {root : Option Location} {r : Ruleset.Resolved}
    (h : rulesetFrom F root = .ok r)
    (hdocs : ∀ x ∈ r.documents, Ruleset.Rewritten code sev.text F G x) :
    ∃ m, rulesetFrom G root = .ok ⟨m, r.documents⟩ ∧ Ruleset.Agree code r.severities m := by
  cases root with
  | none =>
    obtain rfl := Except.ok.inj h
    exact ⟨_, rfl, .refl _⟩
  | some l =>
    obtain ⟨⟨m, documents⟩, hr', rfl, hagree⟩ :=
      Ruleset.resolve_regraded (rulesetFrom_some_iff.1 h) hdocs
    exact ⟨m, rulesetFrom_some_iff.2 hr', hagree⟩

/-- A reload of the ruleset alone takes the ruleset from the disk and keeps all the rest. -/
theorem rebuild_rulesetOnly {r : Ruleset.Resolved} (h : rulesetFrom F s.ruleset = .ok r) :
    (rebuild o F s .rulesetOnly).2 =
      .ok { s with severities := r.severities, documents := r.documents } := by
  have hruleset : withRuleset F s =
      .ok { s with severities := r.severities, documents := r.documents } := by
    rw [withRuleset_eq, h]
    rfl
  simp only [rebuild, refresh, Scope.rulesetOnly, Scope.none, hruleset, Bool.false_eq_true,
    if_false, if_true]

end Project

namespace Session
namespace Run

variable {μ : Type} {r : Run μ} {n m k : Nat} {id code : String} {p q : OpenProject}
  {l : Location} {sev : Severity}

/-! ### An adjustment -/

/-- At rest a caller sets the action of a code in a document without carriage returns and
then reports that the document was modified.  The listener asks for nothing. -/
structure Adjusts (r : Run μ) (n : Nat) (l : Location) (code : String) (sev : Severity) :
    Prop where
  rest : (r.state n).isDone = true
  quiet : r.Quiet n
  /-- the edit succeeds -/
  edit : ∃ file act, r.calls n = some (.visit act) ∧
    file.normalize (r.world n).disk.cwd = l ∧
    Ruleset.setSeverity (r.world n).disk file code sev =
      .ok (act (r.world n) (r.state n).memory).1 ∧
    ∀ text, (r.world n).disk.readText file = .ok text → '\r' ∉ text.toList
  report : ∃ file told, r.calls (n + 2) = some (.notify [⟨file, .modified⟩] told) ∧
    file.normalize (r.world n).disk.cwd = l

/-- A project stands idle, on the ruleset that its documents say. -/
structure Settled (r : Run μ) (n : Nat) (id : String) (p : OpenProject) : Prop where
  project_eq : r.project n id = some p
  idle : p.status = .idle
  resolved : Project.rulesetFrom (r.world n).disk p.snapshot.ruleset =
    .ok ⟨p.snapshot.severities, p.snapshot.documents⟩

/-- What an adjustment makes of a project: its snapshot has the next version, and at most one
code has another severity.  A file that reads as before has the same diagnostics but for that
code. -/
structure Adjusted (r : Run μ) (n m : Nat) (id code : String) (p q : OpenProject) : Prop where
  restsNext : r.RestsNext (n + 3) m
  project_eq : r.project m id = some q
  idle : q.status = .idle
  snapshot_eq : q.snapshot =
    { p.snapshot with
      version := p.snapshot.version + 1
      severities := q.snapshot.severities }
  agree : Ruleset.Agree code p.snapshot.severities q.snapshot.severities
  diagnostics : ∀ file, (r.world n).disk.readText file = (r.world m).disk.readText file →
    Diagnostic.AnswersAlike code ((r.world n).diagnostics id file)
      ((r.world m).diagnostics id file)

/-- Until a run is at rest, documents read, whenever a reload of a project ends, as they did
at a moment. -/
def Undisturbed (r : Run μ) (k : Nat) (id : String) (documents : List Location) : Prop :=
  ∀ i scope, k ≤ i → (∀ j, k ≤ j → j ≤ i → (r.state j).isDone = false) →
    r.task i = some (.finish id scope) → ∀ x ∈ documents, r.reads i x = r.reads k x

/-- The disk that an adjustment reports about: its edit has rewritten the documents, and all
else in the workspace is as it was. -/
theorem Adjusts.exists_edited (h : r.Adjusts n l code sev) :
    (r.state (n + 2)).isDone = true ∧ ∃ G, r.world (n + 2) = { r.world n with disk := G } ∧
      G.cwd = (r.world n).disk.cwd ∧
      ∀ x, Ruleset.Rewritten code sev.text (r.world n).disk G x := by
  obtain ⟨file, act, hcall, -, hset, -⟩ := h.edit
  obtain ⟨hdone, hworld⟩ := state_of_visit h.rest hcall
  obtain ⟨hedit, -⟩ := Ruleset.overwritten_of_setSeverity hset
  refine ⟨hdone, _, ?_, hedit.cwd_eq.symm, Ruleset.rewritten_setSeverity hset⟩
  rw [hworld, Workspace.overDisk, hedit.cwd_eq]

/-- At rest an idle project owes nothing. -/
theorem owed_eq_none (hp : r.project n id = some p) (hdone : (r.state n).isDone = true)
    (hidle : p.status = .idle) : p.owed = .none := by
  by_contra howed
  have hfaulty := isFaulty_of_owed hp (atRest_of_isDone hp hdone).not_running
    (by simpa [Scope.isEmpty] using howed)
  simp [hidle, Status.isFaulty] at hfaulty

/-- **An adjustment changes the severity of one code.**  A project that stands idle on its
ruleset ends idle with the next version.  It has the same documents, sources and analyzers,
every other code has the severity it had, and what reads as before has the same diagnostics
but for that code. -/
theorem adjusts_one_code (h : r.Adjusts n l code sev) (hp : r.Settled n id p)
    (hl : l ∈ p.snapshot.documents) (hdef : l ≠ p.snapshot.definition)
    (hkept : r.Undisturbed (n + 3) id p.snapshot.documents) :
    ∃ m q, r.Adjusted n m id code p q := by
  obtain ⟨hdone, G, hworld, hcwd, hrewritten⟩ := h.exists_edited
  obtain ⟨named, told, hcall, hnamed⟩ := h.report
  have hdisk : (r.world (n + 2)).disk = G := by rw [hworld]
  have hp₂ : r.project (n + 2) id = some p := by
    rw [project, hworld]
    exact hp.project_eq
  have howed : p.owed = .none := owed_eq_none hp.project_eq h.rest hp.idle
  -- the report asks for the ruleset of the project
  have hwork : (id, Scope.rulesetOnly) ∈ (r.world (n + 2)).affected [⟨named, .modified⟩] := by
    refine Workspace.mem_affected.2 ⟨rfl, p, hp₂, ?_⟩
    have hplace : named.normalize (r.world (n + 2)).disk.cwd = l := by rw [hdisk, hcwd, hnamed]
    simp only [List.map_cons, List.map_nil, hplace, OpenProject.workForAll, List.foldl_cons,
      List.foldl_nil, OpenProject.workFor_document hl hdef]
    rfl
  obtain ⟨m, -, hm, hreloads, -⟩ := exists_rest_of_notify (h.quiet.mono (by omega)) hdone hcall
  obtain ⟨i, hi, him, htask, hq⟩ := hreloads id p _ hp₂ hwork
  rw [howed, show Scope.rulesetOnly.merge .none = .rulesetOnly from rfl] at htask hq
  -- when the reload ends, the documents say what they said but for the code
  obtain ⟨severities, hG, hagree⟩ :=
    Project.rulesetFrom_regraded hp.resolved fun x _ => hrewritten x
  have hreads : ∀ x ∈ p.snapshot.documents,
      G.readText x.toPath = (r.world i).disk.readText x.toPath := fun x hx => by
    have hsame := hkept i _ hi (fun j hj hji => hm.busy j hj (by omega)) htask x hx
    rw [reads, reads, world_of_call hdone hcall, hdisk] at hsame
    exact hsame.symm
  have hresolved := Project.rulesetFrom_congr_ok hG hreads
  have hreloaded : reloaded (r.world i) p .rulesetOnly =
      p.publish .rulesetOnly { p.snapshot with severities } := by
    rw [reloaded, Project.rebuild_rulesetOnly hresolved]
    rfl
  rw [hreloaded] at hq
  refine ⟨m, _, hm, hq, rfl, rfl, hagree, fun file htext => ?_⟩
  rw [Workspace.diagnostics_eq hp.project_eq, Workspace.diagnostics_eq hq]
  exact Workspace.answersAlike_analyze htext rfl hagree

/-- **Outside the staging tree nothing is disturbed.**  An adjustment leaves alone what lies
in no open project's part of it. -/
theorem undisturbed_of_unstaged (h : r.Adjusts n l code sev) (hp : r.Settled n id p)
    (hout : ∀ x ∈ p.snapshot.documents, (r.world n).Unstaged x) :
    r.Undisturbed (n + 3) id p.snapshot.documents := by
  intro i scope hi hbusy htask x hx
  obtain ⟨hdone, G, hworld, hcwd, hrewritten⟩ := h.exists_edited
  obtain ⟨named, told, hcall, -⟩ := h.report
  have hdisk : (r.world (n + 2)).disk = G := by rw [hworld]
  have hagenda := agenda_of_call hdone hcall
  have hquiet := h.quiet.mono (show n ≤ n + 3 by omega)
  -- the report is answered, and nothing else has to be
  have hlt : n + 3 < i := by
    rcases Nat.eq_or_lt_of_le hi with rfl | hlt
    · rw [task_of_agenda hagenda] at htask
      cases htask
    · exact hlt
  have hanswered : r.world (n + 4) = r.world (n + 3) := by
    rw [world, state_succ_of_cons hagenda, stepIn, hagenda]
    rfl
  have hout' : (r.world (n + 4)).Unstaged x := by
    rw [hanswered, world_of_call hdone hcall, hworld]
    intro other q hq
    rw [Project.Staged, hcwd]
    exact hout x hx other q hq
  have hkeeps := keeps_of_quiet (hquiet.mono (by omega)) (calm_of_notify hdone hcall) hout' hlt
    fun j hj hji => hbusy j (by omega) (by omega)
  -- what could be read after the edit still reads so
  obtain ⟨m, hG, -⟩ := Project.rulesetFrom_regraded hp.resolved fun x _ => hrewritten x
  obtain ⟨text, htext⟩ := Project.exists_text_of_rulesetFrom hG hx
  have hreads : r.reads (n + 3) x = .ok text := by
    rw [reads, world_of_call hdone hcall, hdisk, htext]
  rw [hreads]
  refine hkeeps.readText text ?_
  rw [hanswered]
  exact hreads

/-! ### Two projects that share a document -/

/-- A visitor sets the action of a code in the document at a path, if that succeeds. -/
def adjust (file : Path) (code : String) (sev : Severity) (w : Workspace) (m : Unit) :
    Disk × Unit :=
  ((Ruleset.setSeverity w.disk file code sev).toOption.getD w.disk, m)

/-- A run in which two projects are opened.  At moment 6 a code is adjusted in a document. -/
def sharing (files : List (String × DiskEntry)) : Run Unit where
  options := ⟨.ofText "/staging", true⟩
  disk := ⟨.root, files.map fun e => (Ruleset.place e.1, e.2)⟩
  memory := ()
  listen := fun _ _ => ([], ())
  calls
    | 0 => some (.addProject (.ofText "/a.toml") fun _ m => m)
    | 3 => some (.addProject (.ofText "/b.toml") fun _ m => m)
    | 6 => some (.visit (adjust (.ofText "/d.toml") "X" .error))
    | 8 => some (.notify [⟨.ofText "/d.toml", .modified⟩] fun m => m)
    | _ => none

/-- The adjustment of such a run succeeds, and a project stands idle on a ruleset to which the
document belongs. -/
@[mk_iff ready_iff]
structure Ready (r : Run Unit) (p : OpenProject) : Prop where
  rest : (r.state 6).isDone = true
  succeeds : (Ruleset.setSeverity (r.world 6).disk (.ofText "/d.toml") "X" .error).toOption.isSome
  no_return : (((r.world 6).disk.readText (.ofText "/d.toml")).toOption.all fun text =>
    !text.toList.contains '\r') = true
  idle : p.status = .idle
  resolved : (Project.rulesetFrom (r.world 6).disk p.snapshot.ruleset).toOption =
    some ⟨p.snapshot.severities, p.snapshot.documents⟩
  mem_documents : Ruleset.place "/d.toml" ∈ p.snapshot.documents
  ne_definition : Ruleset.place "/d.toml" ≠ p.snapshot.definition

instance (r : Run Unit) (p : OpenProject) : Decidable (Ready r p) :=
  decidable_of_iff _ (ready_iff r p).symm

theorem adjusts_sharing {files : List (String × DiskEntry)} (h : Ready (sharing files) p) :
    (sharing files).Adjusts 6 (Ruleset.place "/d.toml") "X" .error where
  rest := h.rest
  quiet _ _ _ := rfl
  edit := by
    obtain ⟨G, hG⟩ := Option.isSome_iff_exists.1 h.succeeds
    refine ⟨.ofText "/d.toml", adjust (.ofText "/d.toml") "X" .error, rfl, rfl, ?_,
      fun text htext => ?_⟩
    · rw [adjust, hG]
      exact toOption_eq_some_iff.1 hG
    · simpa [htext, Except.toOption] using h.no_return
  report := ⟨.ofText "/d.toml", fun m => m, rfl, rfl⟩

theorem settled_sharing {files : List (String × DiskEntry)}
    (hp : (sharing files).project 6 id = some p) (h : Ready (sharing files) p) :
    (sharing files).Settled 6 id p :=
  ⟨hp, h.idle, toOption_eq_some_iff.1 h.resolved⟩

/-- A text with one rule in a table. -/
def ruleText (code action : String) : String :=
  "rules = [\x7b code = \"" ++ code ++ "\", action = \"" ++ action ++ "\" \x7d]"

/-- The document is the analyzer of one project, and the ruleset of the other imports it. -/
def shared : Run Unit := sharing [
  ("/a.toml", .file "analyzers = [\"d.toml\"]".toUTF8),
  ("/b.toml", .file "ruleset = \"r.toml\"".toUTF8),
  ("/d.toml", .file (ruleText "X" "warn").toUTF8),
  ("/r.toml", .file ("imports = [\"d.toml\"]\n" ++ ruleText "Y" "info").toUTF8)]

/-- The ruleset of the second project is adjusted while the first one copies the document. -/
theorem adjusts_one_code_shared :
    ∃ p m q, shared.project 6 "b" = some p ∧ p.snapshot.severities.find? "Y" = some .info ∧
      shared.Adjusted 6 m "b" "X" p q ∧ q.snapshot.severities.find? "Y" = some .info := by
  have h : (shared.project 6 "b").any (fun p =>
      decide (Ready shared p) && decide (p.snapshot.severities.find? "Y" = some .info) &&
      p.snapshot.documents.all fun x => (shared.world 6).projects.entries.all fun e =>
        !decide (Project.Staged (shared.world 6).options (shared.world 6).disk e.2.snapshot x)) =
      true := by decide +kernel
  obtain ⟨p, hp, h⟩ := (Option.any_eq_true _ _).1 h
  simp only [Bool.and_eq_true, decide_eq_true_eq] at h
  obtain ⟨⟨hready, hinfo⟩, hout⟩ := h
  have hunstaged : ∀ x ∈ p.snapshot.documents, (shared.world 6).Unstaged x := by
    intro x hx other q hq
    have hmem := SortedMap.mem_entries_iff.2 hq
    simpa using List.all_eq_true.1 (List.all_eq_true.1 hout x hx) (other, q) hmem
  have hadjusts : shared.Adjusts 6 (Ruleset.place "/d.toml") "X" .error := adjusts_sharing hready
  have hsettled : shared.Settled 6 "b" p := settled_sharing hp hready
  obtain ⟨m, q, hadjusted⟩ := adjusts_one_code hadjusts hsettled hready.mem_documents
    hready.ne_definition (undisturbed_of_unstaged hadjusts hsettled hunstaged)
  refine ⟨p, m, q, hp, hinfo, hadjusted, ?_⟩
  rw [hadjusted.agree "Y" (by decide), hinfo]

/-- An adjustment changes the severity of one code, whatever the reloads of other projects
write before the ruleset is resolved again. -/
def AdjustsOneCode : Prop :=
  ∀ (r : Run Unit) (n : Nat) (l : Location) (code : String) (sev : Severity) (id : String)
    (p : OpenProject), r.Adjusts n l code sev → r.Settled n id p → l ∈ p.snapshot.documents →
    l ≠ p.snapshot.definition → ∃ m q, r.Adjusted n m id code p q

/-- The ruleset also imports a document from the place to which the first project copies the
document once it is adjusted. -/
def disturbing : Run Unit := sharing [
  ("/a.toml", .file "analyzers = [\"d.toml\"]".toUTF8),
  ("/b.toml", .file "ruleset = \"r.toml\"".toUTF8),
  ("/d.toml", .file (ruleText "X" "warn").toUTF8),
  ("/r.toml", .file "imports = [\"d.toml\", \"staging/a/44ebbb03975a12a8/d.toml\"]".toUTF8),
  ("/staging", .directory), ("/staging/a", .directory),
  ("/staging/a/44ebbb03975a12a8", .directory),
  ("/staging/a/44ebbb03975a12a8/d.toml", .file (ruleText "Y" "info").toUTF8)]

/-- **An adjustment can change another code.**  The reload of the first project writes its
copy over a document of the ruleset, which is resolved only then. -/
theorem not_adjustsOneCode : ¬ AdjustsOneCode := by
  intro hall
  have hbefore : (disturbing.project 6 "b").any (fun p =>
      decide (Ready disturbing p) && decide (p.snapshot.severities.find? "Y" = some .info)) =
      true := by decide +kernel
  have hafter : ((disturbing.state 9).run disturbing.listen 12).isDone = true ∧
      (((disturbing.state 9).run disturbing.listen 12).workspace.projects.find? "b").all
        (fun q => decide (q.snapshot.severities.find? "Y" = none)) = true := by decide +kernel
  obtain ⟨p, hp, h⟩ := (Option.any_eq_true _ _).1 hbefore
  simp only [Bool.and_eq_true, decide_eq_true_eq] at h
  obtain ⟨hready, hinfo⟩ := h
  obtain ⟨m, q, hadjusted⟩ := hall disturbing 6 _ "X" .error "b" p (adjusts_sharing hready)
    (settled_sharing hp hready) hready.mem_documents hready.ne_definition
  obtain ⟨N, rfl⟩ := Nat.exists_eq_add_of_le hadjusted.restsNext.le
  have hstate := hadjusted.restsNext.state_eq fun _ _ _ => rfl
  have hdone := hadjusted.restsNext.rest
  rw [hstate] at hdone
  have hq := hadjusted.project_eq
  rw [project, world, hstate, run_eq_of_isDone _ hdone hafter.1] at hq
  have hnone : q.snapshot.severities.find? "Y" = none := by simpa [hq] using hafter.2
  have hsame := hadjusted.agree "Y" (by decide)
  rw [hnone, hinfo] at hsame
  cases hsame

end Run
end Session
end LintWorkspace
