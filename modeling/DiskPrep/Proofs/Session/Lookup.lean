import DiskPrep.Proofs.Run.Relational
import DiskPrep.Proofs.Session.Release

/-!
Runs that look mounts up. A loop of releases tries all of its mount points, or the first alone
where the tool fails (`trace_releaseEach`), so two loops are in step exactly when what they try
is at the same places. Two runs that are in step up to their look at the table of mounts agree
exactly when they find the same there (`agree_iff_of_lookup`).
-/
namespace DiskPrep

open Workflow

/-- The mount points that a loop tries to release: a tool that fails ends it at the first. -/
def ScriptedHost.tried (host : ScriptedHost) (points : List Path) : List Path :=
  match host.failures.unmount with
  | none => points
  | some _ => points.take 1

section releaseEach

variable {host : ScriptedHost} {points others : List Path}

theorem trace_releaseEach :
    (releaseEach points).trace scripted host = (host.tried points).map Call.unmount := by
  induction points generalizing host with
  | nil => unfold ScriptedHost.tried; split <;> rfl
  | cons point rest ih =>
    rw [releaseEach, trace_ask_recorded rfl, ScriptedHost.scripted_answer,
      ScriptedHost.answer_unmount_reply]
    cases fails : host.failures.unmount with
    | none =>
      have still_works : (ScriptedHost.answer (.unmount point) host).state.failures.unmount = none := by
        rw [ScriptedHost.answer_failures, fails]
      simp only [ScriptedHost.toolAnswer, ih]
      simp only [ScriptedHost.tried, fails, still_works, List.map_cons]
    | some output =>
      simp only [ScriptedHost.toolAnswer, ScriptedHost.tried, fails, trace_done]
      rfl

theorem releaseEach_fails {output : Text} (fails : host.failures.unmount = some output)
    (some_point : points ≠ []) :
    ((releaseEach points).run scripted host).value =
      .error (ScriptedHost.failedTool unmountProgram output) := by
  obtain ⟨point, rest, rfl⟩ := List.exists_cons_of_ne_nil some_point
  rw [releaseEach, run_ask_value, ScriptedHost.scripted_answer, ScriptedHost.answer_unmount_reply,
    fails]
  rfl

/-- Loops that try the same places come to the same end. -/
theorem releaseEach_value_eq
    (agree : (host.tried points).map Path.components = (host.tried others).map Path.components)
    {first second : ScriptedHost} (script : first.failures = host.failures)
    (script' : second.failures = host.failures) :
    ((releaseEach points).run scripted first).value =
      ((releaseEach others).run scripted second).value := by
  cases fails : host.failures.unmount with
  | none =>
    rw [releaseEach_works (by rw [script, fails]), releaseEach_works (by rw [script', fails])]
  | some output =>
    simp only [ScriptedHost.tried, fails] at agree
    have fails_first : first.failures.unmount = some output := by rw [script, fails]
    have fails_second : second.failures.unmount = some output := by rw [script', fails]
    cases points with
    | nil =>
      cases others with
      | nil => rfl
      | cons other more => cases agree
    | cons point rest =>
      cases others with
      | nil => cases agree
      | cons other more =>
        rw [releaseEach_fails fails_first (List.cons_ne_nil _ _),
          releaseEach_fails fails_second (List.cons_ne_nil _ _)]

/-- Releases use up no reply of the script. -/
theorem releaseEach_frame :
    ∃ record mounts, ((releaseEach points).run scripted host).state =
      { host with record := record, mounts := mounts } := by
  induction points generalizing host with
  | nil => exact ⟨host.record, host.mounts, rfl⟩
  | cons point rest ih =>
    obtain ⟨record, mounts, kept⟩ := ScriptedHost.answer_unmount_frame point host
    rw [releaseEach, run_ask_state, ScriptedHost.scripted_answer, ScriptedHost.answer_unmount_reply,
      kept]
    cases host.failures.unmount with
    | none => exact ih
    | some output => exact ⟨record, mounts, rfl⟩

/-- The loops of two runs that try the same places are in step, and each clears its own table
of what it covers. -/
theorem inStep_releaseEach {table table' : Text} {watched watched' : MountEntry → Prop}
    (covered : MountEntry.Covered watched points table)
    (covered' : MountEntry.Covered watched' others table')
    (agree : (host.tried points).map Path.components = (host.tried others).map Path.components) :
    InStep (host.Twin fun mounts mounts' => mounts = table ∧ mounts' = table')
      (releaseEach points) (releaseEach others)
      (Ended (· = ·) fun _ _ => host.Twin fun mounts mounts' =>
        (∀ entry ∈ MountEntry.parseTable mounts, ¬ watched entry) ∧
          ∀ entry ∈ MountEntry.parseTable mounts', ¬ watched' entry) := by
  intro first second twin
  obtain ⟨replies, record, other, mounts, mounts', left, right, rfl, rfl⟩ := twin
  have script : first.failures = host.failures := by rw [left]
  have script' : second.failures = host.failures := by rw [right]
  refine ⟨?_, ?_⟩
  · have places : ∀ paths : List Path, (paths.map Call.unmount).map Call.released? =
        (paths.map Path.components).map some := by
      intro paths
      rw [List.map_map, List.map_map]
      rfl
    have tries : first.tried points = host.tried points := by
      rw [ScriptedHost.tried, script, ScriptedHost.tried]
    have tries' : second.tried others = host.tried others := by
      rw [ScriptedHost.tried, script', ScriptedHost.tried]
    rw [trace_releaseEach, trace_releaseEach, places, places, tries, tries', agree]
  · have same_value := releaseEach_value_eq agree script script'
    obtain ⟨later, left_mounts, left_state⟩ := @releaseEach_frame first points
    obtain ⟨later', right_mounts, right_state⟩ := @releaseEach_frame second others
    cases ended : ((releaseEach points).run scripted first).value with
    | error cause =>
      rw [ended] at same_value
      rw [← same_value]
      rfl
    | ok _ =>
      rw [ended] at same_value
      have covered_first : MountEntry.Covered watched points first.mounts := by rwa [left]
      have covered_second : MountEntry.Covered watched' others second.mounts := by rwa [right]
      have cleared := releaseEach_clears covered_first ended
      have cleared' := releaseEach_clears covered_second same_value.symm
      rw [left_state] at cleared
      rw [right_state] at cleared'
      rw [← same_value, left_state, right_state, left, right]
      exact ⟨replies, later, later', left_mounts, right_mounts, rfl, rfl, cleared, cleared'⟩

end releaseEach

/-- Loops whose traces go on with no release try the same places when the traces release the
same. -/
theorem places_eq_of_releasedAt {points others : List Path} {rest rest' : List Call}
    (quiet : releasedAt rest 0 = none) (quiet' : releasedAt rest' 0 = none)
    (same : ∀ i, releasedAt (points.map Call.unmount ++ rest) i =
      releasedAt (others.map Call.unmount ++ rest') i) :
    points.map Path.components = others.map Path.components := by
  induction points generalizing others with
  | nil =>
    cases others with
    | nil => rfl
    | cons other more =>
      have here := same 0
      rw [List.map_nil, List.nil_append, quiet] at here
      cases here
  | cons point rest ih =>
    cases others with
    | nil =>
      have here := same 0
      rw [List.map_nil, List.nil_append, quiet'] at here
      cases here
    | cons other more =>
      have here : some point.components = some other.components := same 0
      have later := ih fun i => same (i + 1)
      rw [List.map_cons, List.map_cons, later, Option.some.inj here]

namespace Session

def outcomeOf {α : Type} : Except Failure α → Outcome
  | .ok _ => .ok
  | .error failure => failure.outcome

/-- On the host the runs come to the same outcome, and release mounts of the same places at the
same places of their traces. -/
def Agree {α β : Type} (host : ScriptedHost) (w : Workflow (Except Failure α))
    (w' : Workflow (Except Failure β)) : Prop :=
  outcomeOf (w.run scripted host).value = outcomeOf (w'.run scripted host).value ∧
    ∀ i, releasedAt (w.trace scripted host) i = releasedAt (w'.trace scripted host) i

theorem agree_silent {α β : Type} {host : ScriptedHost} {w : Workflow (Except Failure α)}
    {w' : Workflow (Except Failure β)} : Agree host w.silent w'.silent ↔ Agree host w w' := by
  simp only [Agree, run_silent, trace_silent]

/-- Both runs fail with one outcome, or both end well and their hosts are twins. -/
abbrev EndAlike {α β : Type} (host : ScriptedHost) (Q : Text → Text → Prop) :
    Except Failure α → Except Failure β → ScriptedHost → ScriptedHost → Prop :=
  Ended (fun failure other => failure.outcome = other.outcome) fun _ _ => host.Twin Q

/-- The hosts have the table of mounts that they started with. -/
abbrev AtStart (host : ScriptedHost) : ScriptedHost → ScriptedHost → Prop :=
  host.Twin fun mounts mounts' => mounts = host.mounts ∧ mounts' = host.mounts

theorem atStart (host : ScriptedHost) : AtStart host host host :=
  ⟨host.replies, host.record, host.record, host.mounts, host.mounts, rfl, rfl, rfl, rfl⟩

theorem agree_of_inStep {α β : Type} {host : ScriptedHost} {w : Workflow (Except Failure α)}
    {w' : Workflow (Except Failure β)}
    (inStep : InStep (AtStart host) w w' fun a b _ _ => outcomeOf a = outcomeOf b) :
    Agree host w w' := by
  obtain ⟨released, ended⟩ := inStep host host (atStart host)
  exact ⟨ended, releasedAt_of_map released⟩

/-- The mount points that the table leads to are released, and then the run goes on. -/
def releasing (points : List MountEntry → List Path) (failed : Text → Failure)
    (rest : Workflow (Except Failure Text)) :
    Except HostError Text → Workflow (Except Failure Text)
  | .error cause => done (.error (.partitioningFailed cause.diagnostic))
  | .ok table => (releaseEach (points (MountEntry.parseTable table))).bind fun
    | .error cause => done (.error (failed cause.diagnostic))
    | .ok () => rest

/-- A run that looks at the table of mounts when its first part has ended well. -/
def thenRelease (first : Workflow (Except Failure Unit)) (points : List MountEntry → List Path)
    (failed : Text → Failure) (rest : Workflow (Except Failure Text)) :
    Workflow (Except Failure Text) :=
  first.bind fun
    | .error failure => done (.error failure)
    | .ok () => ask .readMounts (releasing points failed rest)

section thenRelease

variable {host : ScriptedHost} {first first' : Workflow (Except Failure Unit)}
  {points points' : List MountEntry → List Path} {failed : Text → Failure}
  {rest rest' : Workflow (Except Failure Text)} {watched watched' : MountEntry → Prop}

/-- Where what both try is at the same places, the runs release in step; they go on with tables
cleared of what they watch. -/
theorem inStep_releasing {Q : Text → Text → Prop}
    (covered : ∀ table, MountEntry.Covered watched (points (MountEntry.parseTable table)) table)
    (covered' : ∀ table, MountEntry.Covered watched' (points' (MountEntry.parseTable table)) table)
    (agree : ∀ mounts mounts', Q mounts mounts' →
      (host.tried (points (MountEntry.parseTable mounts))).map Path.components =
        (host.tried (points' (MountEntry.parseTable mounts'))).map Path.components)
    (rests : InStep (host.Twin fun mounts mounts' =>
      (∀ entry ∈ MountEntry.parseTable mounts, ¬ watched entry) ∧
        ∀ entry ∈ MountEntry.parseTable mounts', ¬ watched' entry) rest rest'
      fun a b _ _ => outcomeOf a = outcomeOf b) :
    InStep (host.Twin Q) (.ask .readMounts (releasing points failed rest))
      (.ask .readMounts (releasing points' failed rest')) fun a b _ _ => outcomeOf a = outcomeOf b := by
  refine .readMounts ?_
  intro table table' related
  refine (inStep_releaseEach (covered table) (covered' table') (agree table table' related)).andThen
    ?_ ?_
  · intro _ _
    exact rests
  · rintro cause _ rfl
    exact .done fun _ _ _ => rfl

theorem trace_thenRelease_failed {failure : Failure}
    (failing : (first.run scripted host).value = .error failure) :
    (thenRelease first points failed rest).trace scripted host = first.trace scripted host := by
  rw [thenRelease, trace_bind, failing, trace_done, List.append_nil]

theorem trace_thenRelease (quiet : ∀ state, releasedAt (rest.trace scripted state) 0 = none)
    (success : (first.run scripted host).value = .ok ())
    (table : (first.run scripted host).state.mounts = host.mounts)
    (script : (first.run scripted host).state.failures = host.failures) :
    ∃ later, releasedAt later 0 = none ∧
      (thenRelease first points failed rest).trace scripted host =
        first.trace scripted host ++ .readMounts ::
          ((host.tried (points (MountEntry.parseTable host.mounts))).map Call.unmount ++ later) := by
  have tries : ∀ found, ((first.run scripted host).state.recording .readMounts).tried found =
      host.tried found := by
    intro found
    simp only [ScriptedHost.tried, ScriptedHost.recording, script]
  rw [thenRelease, trace_bind, success, trace_ask_recorded rfl, ScriptedHost.scripted_answer]
  simp only [ScriptedHost.answer, table, releasing, trace_bind, trace_releaseEach, tries]
  refine ⟨_, ?_, rfl⟩
  split
  · rfl
  · exact quiet _

/-- Runs in step up to their look at the table agree exactly when what they try to release,
once they get there, is at the same places. -/
theorem agree_iff_of_lookup (firsts : InStep (AtStart host) first first' (EndAlike host
      fun mounts mounts' => mounts = host.mounts ∧ mounts' = host.mounts))
    (unread : Call.readMounts ∉ first.trace scripted host)
    (covered : ∀ table, MountEntry.Covered watched (points (MountEntry.parseTable table)) table)
    (covered' : ∀ table, MountEntry.Covered watched' (points' (MountEntry.parseTable table)) table)
    (quiet : ∀ state, releasedAt (rest.trace scripted state) 0 = none)
    (quiet' : ∀ state, releasedAt (rest'.trace scripted state) 0 = none)
    (rests : InStep (host.Twin fun mounts mounts' =>
      (∀ entry ∈ MountEntry.parseTable mounts, ¬ watched entry) ∧
        ∀ entry ∈ MountEntry.parseTable mounts', ¬ watched' entry) rest rest'
      fun a b _ _ => outcomeOf a = outcomeOf b) :
    Agree host (thenRelease first points failed rest) (thenRelease first' points' failed rest') ↔
      (Call.readMounts ∈ (thenRelease first points failed rest).trace scripted host →
        (host.tried (points (MountEntry.parseTable host.mounts))).map Path.components =
          (host.tried (points' (MountEntry.parseTable host.mounts))).map Path.components) := by
  obtain ⟨released, ended⟩ := firsts host host (atStart host)
  cases value : (first.run scripted host).value with
  | error failure =>
    cases value' : (first'.run scripted host).value with
    | ok _ =>
      rw [value, value'] at ended
      exact ended.elim
    | error other =>
      rw [value, value'] at ended
      have untold : Call.readMounts ∉ (thenRelease first points failed rest).trace scripted host := by
        rw [trace_thenRelease_failed value]
        exact unread
      refine iff_of_true ⟨?_, ?_⟩ fun told => absurd told untold
      · rw [thenRelease, run_bind_value, value, thenRelease, run_bind_value, value']
        exact ended
      · rw [trace_thenRelease_failed value, trace_thenRelease_failed value']
        exact releasedAt_of_map released
  | ok _ =>
    cases value' : (first'.run scripted host).value with
    | error other =>
      rw [value, value'] at ended
      exact ended.elim
    | ok _ =>
      rw [value, value'] at ended
      obtain ⟨replies, record, other, mounts, mounts', left, right, rfl, rfl⟩ := ended
      obtain ⟨later, silent, looked⟩ := @trace_thenRelease host first points failed rest quiet value
        (by rw [left]) (by rw [left])
      obtain ⟨later', silent', looked'⟩ := @trace_thenRelease host first' points' failed rest' quiet'
        value' (by rw [right]) (by rw [right])
      constructor
      · rintro ⟨-, same⟩ -
        refine places_eq_of_releasedAt silent silent' ?_
        intro i
        have lengths := congrArg List.length released
        rw [List.length_map, List.length_map] at lengths
        have there := same ((first.trace scripted host).length + (i + 1))
        rw [looked, looked', releasedAt_append, lengths, releasedAt_append] at there
        exact there
      · intro agree
        have told : Call.readMounts ∈ (thenRelease first points failed rest).trace scripted host := by
          rw [looked]
          exact List.mem_append_right _ List.mem_cons_self
        refine agree_of_inStep (firsts.andThen ?_ ?_)
        · intro _ _
          refine inStep_releasing covered covered' ?_ rests
          rintro _ _ ⟨rfl, rfl⟩
          exact agree told
        · intro failure other same
          exact .done fun _ _ _ => same

end thenRelease

end Session

end DiskPrep
