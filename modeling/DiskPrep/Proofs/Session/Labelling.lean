import DiskPrep.Proofs.Session.Survey

/-!
When a label is written, and what a size is read from. A label is asked for exactly when the
first query has printed the summary of a disk without one, whether the tool failed or not; after
it one more query is made, of which only a success counts. A size is what the last request has
printed, when that was a query that succeeded, and else it is zero
(`label_written_iff_unlabelled`).
-/
namespace DiskPrep.Survey

open Workflow

def SummaryUnlabelled (output : Text) : Prop :=
  ∃ geometry, Geometry.parseSummary output = .ok geometry ∧ geometry.label = unknownLabel

/-- The tool has printed the summary of a disk without a label. It may have failed over it;
where it did not come to print, nothing is known of the label. -/
def ShowsUnlabelled (reply : Except HostError Text) : Prop :=
  ∃ output, printed? reply = some output ∧ SummaryUnlabelled output

/-- The last request was a query, and what it printed gives the geometry. -/
def ReadLast {σ : Type} (disk : Path) (history : List (Moment σ)) (geometry : Geometry) : Prop :=
  ∃ earlier met output, history = earlier ++ [⟨met, .parted disk sizeQuery, .ok output⟩] ∧
    Geometry.parseSummary output = .ok geometry

theorem needsLabel_iff {geometry : Geometry} :
    geometry.needsLabel = true ↔ geometry.label = unknownLabel :=
  beq_iff_eq

/-- A first answer that shows a disk without a label counts, also as a failure. -/
theorem firstGeometry_of_showsUnlabelled {reply : Except HostError Text}
    (shows : ShowsUnlabelled reply) :
    ∃ geometry, firstGeometry reply = .ok geometry ∧ geometry.needsLabel = true := by
  obtain ⟨output, prints, geometry, parses, unlabelled⟩ := shows
  have needs : geometry.needsLabel = true := needsLabel_iff.mpr unlabelled
  refine ⟨geometry, ?_, needs⟩
  cases reply with
  | ok printed =>
    cases prints
    simp only [firstGeometry, geometryIn, parses]
  | error cause =>
    cases cause with
    | commandFailed program code printed =>
      cases prints
      simp only [firstGeometry, parses, needs, if_true]
    | _ => cases prints

/-- No other answer counts as that of a disk without a label. -/
theorem showsUnlabelled_of_firstGeometry {reply : Except HostError Text} {geometry : Geometry}
    (found : firstGeometry reply = .ok geometry) (needs : geometry.needsLabel = true) :
    ShowsUnlabelled reply := by
  obtain ⟨output, prints, parses⟩ := printed_firstGeometry found
  exact ⟨output, prints, geometry, parses, needsLabel_iff.mp needs⟩

theorem showsUnlabelled_iff {reply : Except HostError Text} :
    ShowsUnlabelled reply ↔
      ∃ geometry, (firstGeometry reply).toOption = some geometry ∧ geometry.needsLabel = true := by
  constructor
  · intro shows
    obtain ⟨geometry, found, needs⟩ := firstGeometry_of_showsUnlabelled shows
    exact ⟨geometry, by rw [found]; rfl, needs⟩
  · rintro ⟨geometry, found, needs⟩
    cases answer : firstGeometry reply with
    | error cause =>
      rw [answer] at found
      cases found
    | ok other =>
      rw [answer] at found
      cases found
      exact showsUnlabelled_of_firstGeometry answer needs

/-- A failure that does not show a disk without a label is passed on as it is. -/
theorem firstGeometry_error {cause : HostError}
    (other : ¬ ShowsUnlabelled (.error cause)) : firstGeometry (.error cause) = .error cause := by
  cases cause with
  | commandFailed program code output =>
    simp only [firstGeometry]
    cases parsed : Geometry.parseSummary output with
    | error fault => rfl
    | ok geometry =>
      have labelled : ¬ geometry.needsLabel = true := fun needs =>
        other ⟨output, rfl, geometry, parsed, needsLabel_iff.mp needs⟩
      exact if_neg labelled
  | _ => rfl

/-- An answer that does not show a disk without a label counts alike wherever it comes: a
failure is a failure. -/
theorem firstGeometry_eq_laterGeometry {reply : Except HostError Text}
    (other : ¬ ShowsUnlabelled reply) : firstGeometry reply = laterGeometry reply := by
  cases reply with
  | ok output => rfl
  | error cause => exact firstGeometry_error other

/-- A later answer gives a geometry when the query succeeded and printed it. -/
theorem laterGeometry_eq_ok {reply : Except HostError Text} {geometry : Geometry} :
    laterGeometry reply = .ok geometry ↔
      ∃ output, reply = .ok output ∧ Geometry.parseSummary output = .ok geometry := by
  constructor
  · intro found
    cases reply with
    | error cause => cases found
    | ok output =>
      obtain ⟨printed, prints, parses⟩ := printed_laterGeometry found
      cases prints
      exact ⟨output, rfl, parses⟩
  · rintro ⟨output, rfl, parses⟩
    simp only [laterGeometry, Except.bind, geometryIn, parses]

theorem readLast_concat {σ : Type} {disk : Path} {earlier : List (Moment σ)} {met : σ}
    {reply : Except HostError Text} {geometry : Geometry} :
    ReadLast disk (earlier ++ [⟨met, .parted disk sizeQuery, reply⟩]) geometry ↔
      laterGeometry reply = .ok geometry := by
  rw [laterGeometry_eq_ok]
  constructor
  · rintro ⟨before, state, output, split, parses⟩
    obtain ⟨-, last⟩ := List.append_inj' split rfl
    injection last with same
    injection same with _ _ replies
    exact ⟨output, replies, parses⟩
  · rintro ⟨output, rfl, parses⟩
    exact ⟨earlier, met, output, rfl, parses⟩

theorem silent_inspect? (disk : Path) :
    (inspect? disk).silent = ask (.parted disk sizeQuery) fun first =>
      match firstGeometry first with
      | .error cause => done (.error cause)
      | .ok geometry =>
        if geometry.needsLabel then
          ask (.parted disk labelScript) fun
            | .error cause => done (.error cause)
            | .ok _ => ask (.parted disk sizeQuery) fun second => done (laterGeometry second)
        else done (.ok geometry) := by
  simp only [inspect?, probe?, bind_eq, request, Workflow.bind, pure_eq, silent]
  congr 1
  funext first
  cases firstGeometry first with
  | error cause => rfl
  | ok geometry =>
    by_cases unlabelled : geometry.needsLabel = true
    · simp only [unlabelled, if_true, tell_bind, silent]
      congr 1
      funext labelled
      cases labelled <;> rfl
    · simp only [unlabelled, Bool.false_eq_true, if_false]
      rfl

section anyHost

variable {σ : Type} (host : Host σ) (disk : Path) (state : σ)

/-- The answer to the first query, and the host after it. -/
def firstAnswer : Answer σ (Except HostError Text) := host.answer (.parted disk sizeQuery) state

/-- The answer to a label asked for behind the first query. -/
def labelAnswer : Answer σ (Except HostError Text) :=
  host.answer (.parted disk labelScript) (firstAnswer host disk state).state

/-- The answer to a query behind the label. -/
def secondAnswer : Answer σ (Except HostError Text) :=
  host.answer (.parted disk sizeQuery) (labelAnswer host disk state).state

variable {host disk state}

/-- An inspection asks what its attempt asks. -/
theorem history_inspect : (inspect disk).history host state = (inspect? disk).history host state := by
  rw [inspect, bind_eq, history_bind, ← history_silent host (orUnknown disk _), silent_orUnknown,
    history_done, List.append_nil]

theorem value_inspect :
    ((inspect disk).run host state).value = known ((inspect? disk).run host state).value := by
  rw [inspect, bind_eq, run_bind_value, ← (run_silent host (orUnknown disk _) _).1,
    silent_orUnknown, run_done_value]

/-- One query is all, when it does not show a disk without a label. -/
theorem inspect?_labelled (labelled : ¬ ShowsUnlabelled (firstAnswer host disk state).reply) :
    (inspect? disk).history host state =
        [⟨state, .parted disk sizeQuery, (firstAnswer host disk state).reply⟩] ∧
      ((inspect? disk).run host state).value =
        firstGeometry (firstAnswer host disk state).reply := by
  rw [← history_silent, ← (run_silent host _ state).1, silent_inspect?, history_ask, run_ask_value,
    ← firstAnswer]
  cases found : firstGeometry (firstAnswer host disk state).reply with
  | error cause => exact ⟨rfl, rfl⟩
  | ok geometry =>
    have has_label : ¬ geometry.needsLabel = true := fun needs =>
      labelled (showsUnlabelled_of_firstGeometry found needs)
    simp only [if_neg has_label]
    exact ⟨rfl, rfl⟩

/-- A label is asked for behind a first query that shows a disk without one, and when it could
not be written that is the end. -/
theorem inspect?_label_failed (unlabelled : ShowsUnlabelled (firstAnswer host disk state).reply)
    {cause : HostError} (failed : (labelAnswer host disk state).reply = .error cause) :
    (inspect? disk).history host state =
        [⟨state, .parted disk sizeQuery, (firstAnswer host disk state).reply⟩,
          ⟨(firstAnswer host disk state).state, .parted disk labelScript, .error cause⟩] ∧
      ((inspect? disk).run host state).value = .error cause := by
  obtain ⟨geometry, found, needs⟩ := firstGeometry_of_showsUnlabelled unlabelled
  rw [← history_silent, ← (run_silent host _ state).1, silent_inspect?, history_ask, run_ask_value,
    ← firstAnswer]
  simp only [found, if_pos needs, history_ask, run_ask_value]
  rw [← labelAnswer, failed]
  exact ⟨rfl, rfl⟩

/-- A label that was written is followed by one more query, whose answer is the value. -/
theorem inspect?_label_written (unlabelled : ShowsUnlabelled (firstAnswer host disk state).reply)
    {output : Text} (written : (labelAnswer host disk state).reply = .ok output) :
    (inspect? disk).history host state =
        [⟨state, .parted disk sizeQuery, (firstAnswer host disk state).reply⟩,
          ⟨(firstAnswer host disk state).state, .parted disk labelScript, .ok output⟩,
          ⟨(labelAnswer host disk state).state, .parted disk sizeQuery,
            (secondAnswer host disk state).reply⟩] ∧
      ((inspect? disk).run host state).value =
        laterGeometry (secondAnswer host disk state).reply := by
  obtain ⟨geometry, found, needs⟩ := firstGeometry_of_showsUnlabelled unlabelled
  rw [← history_silent, ← (run_silent host _ state).1, silent_inspect?, history_ask, run_ask_value,
    ← firstAnswer]
  simp only [found, if_pos needs, history_ask, run_ask_value]
  rw [← labelAnswer, written]
  exact ⟨rfl, rfl⟩

/-- Either a query is the last request of an inspection and its answer gives what is known, or
a label that could not be written is the last and nothing is known. -/
theorem inspect_last :
    (∃ earlier met reply,
      (inspect disk).history host state = earlier ++ [⟨met, .parted disk sizeQuery, reply⟩] ∧
        ((inspect disk).run host state).value = known (laterGeometry reply)) ∨
    (∃ earlier met reply,
      (inspect disk).history host state = earlier ++ [⟨met, .parted disk labelScript, reply⟩] ∧
        ((inspect disk).run host state).value = .unknown) := by
  rw [history_inspect, value_inspect]
  by_cases unlabelled : ShowsUnlabelled (firstAnswer host disk state).reply
  · cases written : (labelAnswer host disk state).reply with
    | error cause =>
      obtain ⟨history, value⟩ := inspect?_label_failed unlabelled written
      rw [history, value]
      exact Or.inr ⟨[_], _, _, rfl, rfl⟩
    | ok output =>
      obtain ⟨history, value⟩ := inspect?_label_written unlabelled written
      rw [history, value]
      exact Or.inl ⟨[_, _], _, _, rfl, rfl⟩
  · obtain ⟨history, value⟩ := inspect?_labelled unlabelled
    rw [history, value, firstGeometry_eq_laterGeometry unlabelled]
    exact Or.inl ⟨[], _, _, rfl, rfl⟩

/-- A size above zero is what the last request has printed. -/
theorem readLast_of_usable (usable : 0 < ((inspect disk).run host state).value.total) :
    ReadLast disk ((inspect disk).history host state) ((inspect disk).run host state).value := by
  rcases @inspect_last σ host disk state with
    ⟨earlier, met, reply, history, value⟩ | ⟨earlier, met, reply, history, value⟩
  · rw [value] at usable ⊢
    rw [history, readLast_concat]
    obtain ⟨geometry, found, -⟩ := usable_known (decide_eq_true usable)
    rw [found, known]
  · rw [value] at usable
    cases usable

/-- What the last request has printed is what is known. -/
theorem value_of_readLast {geometry : Geometry}
    (read : ReadLast disk ((inspect disk).history host state) geometry) :
    ((inspect disk).run host state).value = geometry := by
  rcases @inspect_last σ host disk state with
    ⟨earlier, met, reply, history, value⟩ | ⟨earlier, met, reply, history, value⟩
  · rw [history, readLast_concat] at read
    rw [value, read, known]
  · obtain ⟨before, then_, output, split, -⟩ := read
    rw [history] at split
    obtain ⟨-, last⟩ := List.append_inj' split rfl
    injection last with same
    injection same with _ calls
    cases calls

theorem history_probe : (probe disk).history host state =
    [⟨state, .parted disk sizeQuery, (firstAnswer host disk state).reply⟩] := by
  rw [← history_silent, silent_probe, history_ask, history_done]
  rfl

/-- A probe knows what its one query gives as a first answer. -/
theorem value_probe :
    ((probe disk).run host state).value = known (firstGeometry (firstAnswer host disk state).reply) := by
  rw [← (run_silent host _ state).1, silent_probe, run_ask_value, run_done_value, firstAnswer]

/-- Without a label to write, an inspection knows what a probe does. -/
theorem value_inspect_labelled (labelled : ¬ ShowsUnlabelled (firstAnswer host disk state).reply) :
    ((inspect disk).run host state).value =
      known (firstGeometry (firstAnswer host disk state).reply) := by
  rw [value_inspect, (inspect?_labelled labelled).2]

/-- What an inspection asks: a query, then a label where the query shows a disk without one, then
a query again where the label was written. -/
theorem asked_inspect?_cases :
    let query := Call.parted disk sizeQuery
    let label := Call.parted disk labelScript
    let asked := ((inspect? disk).history host state).map Moment.call
    let unlabelled := ShowsUnlabelled (firstAnswer host disk state).reply
    (¬ unlabelled ∧ asked = [query]) ∨
      (unlabelled ∧ (asked = [query, label] ∨ asked = [query, label, query])) := by
  intro query label asked unlabelled
  by_cases shows : unlabelled
  · refine Or.inr ⟨shows, ?_⟩
    cases wrote : (labelAnswer host disk state).reply with
    | error cause =>
      exact Or.inl (congrArg (List.map Moment.call) (inspect?_label_failed shows wrote).1)
    | ok output =>
      exact Or.inr (congrArg (List.map Moment.call) (inspect?_label_written shows wrote).1)
  · exact Or.inl ⟨shows, congrArg (List.map Moment.call) (inspect?_labelled shows).1⟩

theorem label_mem_inspect?_iff :
    .parted disk labelScript ∈ ((inspect? disk).history host state).map Moment.call ↔
      ShowsUnlabelled (firstAnswer host disk state).reply := by
  have other : Call.parted disk labelScript ≠ .parted disk sizeQuery := by
    intro same
    injection same with _ scripts
    cases scripts
  rcases @asked_inspect?_cases σ host disk state with
    ⟨labelled, asked⟩ | ⟨unlabelled, asked | asked⟩
  · rw [asked, List.mem_singleton]
    exact iff_of_false other labelled
  · rw [asked]
    exact iff_of_true (List.mem_cons_of_mem _ List.mem_cons_self) unlabelled
  · rw [asked]
    exact iff_of_true (List.mem_cons_of_mem _ List.mem_cons_self) unlabelled

end anyHost

/-- A label is written only to a disk that is read as one without, and a size is never guessed.
The label is asked for exactly when the first query shows a disk without a label; any other
failure of that query is the value, and nothing more is asked. A label that was written is
followed by one more query, of which a failure is always a failure. A size above zero, with its
label, was printed by a query that succeeded and was the last request. A probe makes one query,
and knows the same as an inspection unless the disk shows to have no label. -/
theorem label_written_iff_unlabelled {σ : Type} (host : Host σ) (disk : Path) (state : σ) :
    let query := Call.parted disk sizeQuery
    let label := Call.parted disk labelScript
    let first := (firstAnswer host disk state).reply
    let written := (labelAnswer host disk state).reply
    let second := (secondAnswer host disk state).reply
    let asked := ((inspect? disk).history host state).map Moment.call
    let found := ((inspect? disk).run host state).value
    let geometry := ((inspect disk).run host state).value
    (label ∈ asked ↔ ShowsUnlabelled first) ∧
    (¬ ShowsUnlabelled first →
      asked = [query] ∧ ∀ cause, first = .error cause → found = .error cause) ∧
    (ShowsUnlabelled first →
      (∀ cause, written = .error cause → asked = [query, label] ∧ found = .error cause) ∧
      ∀ output, written = .ok output →
        asked = [query, label, query] ∧ ∀ cause, second = .error cause → found = .error cause) ∧
    (0 < geometry.total → ReadLast disk ((inspect disk).history host state) geometry) ∧
    (∀ read, ReadLast disk ((inspect disk).history host state) read → geometry = read) ∧
    ((probe disk).history host state).map Moment.call = [query] ∧
    (¬ ShowsUnlabelled first → ((probe disk).run host state).value = geometry) := by
  intro query label first written second asked found geometry
  have one_query : ¬ ShowsUnlabelled first →
      asked = [query] ∧ ∀ cause, first = .error cause → found = .error cause := by
    intro labelled
    obtain ⟨history, value⟩ := inspect?_labelled labelled
    refine ⟨congrArg (List.map Moment.call) history, ?_⟩
    intro cause failed
    have passed_on : firstGeometry first = .error cause := by
      rw [failed] at labelled ⊢
      exact firstGeometry_error labelled
    exact value.trans passed_on
  have label_failed : ShowsUnlabelled first → ∀ cause, written = .error cause →
      asked = [query, label] ∧ found = .error cause := by
    intro unlabelled cause failed
    obtain ⟨history, value⟩ := inspect?_label_failed unlabelled failed
    exact ⟨congrArg (List.map Moment.call) history, value⟩
  have label_written : ShowsUnlabelled first → ∀ output, written = .ok output →
      asked = [query, label, query] ∧ ∀ cause, second = .error cause → found = .error cause := by
    intro unlabelled output success
    obtain ⟨history, value⟩ := inspect?_label_written unlabelled success
    refine ⟨congrArg (List.map Moment.call) history, ?_⟩
    intro cause failed
    exact value.trans (congrArg laterGeometry failed)
  have asks_label : label ∈ asked ↔ ShowsUnlabelled first := by
    constructor
    · intro labels
      by_cases unlabelled : ShowsUnlabelled first
      · exact unlabelled
      · rw [(one_query unlabelled).1] at labels
        injection List.mem_singleton.mp labels with _ scripts
        cases scripts
    · intro unlabelled
      cases wrote : written with
      | error cause =>
        rw [(label_failed unlabelled cause wrote).1]
        exact List.mem_cons_of_mem _ List.mem_cons_self
      | ok output =>
        rw [(label_written unlabelled output wrote).1]
        exact List.mem_cons_of_mem _ List.mem_cons_self
  have probe_asks : ((probe disk).history host state).map Moment.call = [query] := by
    rw [← history_silent, silent_probe]
    rfl
  refine ⟨asks_label, one_query,
    fun unlabelled => ⟨label_failed unlabelled, label_written unlabelled⟩,
    readLast_of_usable, fun read => value_of_readLast, probe_asks, ?_⟩
  intro labelled
  exact value_probe.trans (value_inspect_labelled labelled).symm

/-- A tool that fails twice over the summary of a disk without a label is believed the first
time only. -/
theorem second_failure_not_believed :
    let summary := "BYT;\n/dev/sda:100GB:scsi:512:512:unknown:disk;\nError\n".toList
    let host := { ScriptedHost.empty with replies := [.failed summary, .failed summary] }
    let disk := ScriptedHost.firstDisk
    ((inspect? disk).history scripted host).map Moment.call =
        [.parted disk sizeQuery, .parted disk labelScript, .parted disk sizeQuery] ∧
      ((inspect? disk).run scripted host).value =
        .error (ScriptedHost.failedTool partedProgram summary) ∧
      ((inspect disk).run scripted host).value = .unknown := by
  intro summary host disk
  have unlabelled : ShowsUnlabelled (firstAnswer scripted disk host).reply :=
    ⟨summary, rfl, ⟨100, unknownLabel⟩, rfl, rfl⟩
  obtain ⟨-, -, relabelled, -⟩ := label_written_iff_unlabelled scripted disk host
  obtain ⟨asked, failed⟩ := (relabelled unlabelled).2 [] rfl
  have found := failed (ScriptedHost.failedTool partedProgram summary) rfl
  refine ⟨asked, found, ?_⟩
  rw [value_inspect, found, known]

end DiskPrep.Survey
