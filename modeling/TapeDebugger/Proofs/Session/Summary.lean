import TapeDebugger.Proofs.Executor.StateText
import TapeDebugger.Proofs.Session.Answers
import TapeDebugger.Proofs.Text.Quoted

/-!
# Summaries

A summary puts what a program has written into the middle of lines that the debugger writes itself.
It is quoted there, so that a program cannot write anything that looks like another summary: a
summary is read from left to right, field by field, where each field ends is known before what comes
after it is looked at, and the lines are those of the debugger (`summary_cannot_be_forged`).
-/

namespace TapeDebugger

/-- The number of lines of a text. -/
def lineCount (text : String) : Nat :=
  text.toList.count '\n' + 1

section Fields

variable {mark : Char} {rest other : List Char}

/-- A field ends at a mark that does not occur in it. -/
theorem append_mark_inj {left right : List Char} (leftFree : mark ∉ left)
    (rightFree : mark ∉ right) (same : left ++ mark :: rest = right ++ mark :: other) :
    left = right ∧ rest = other := by
  induction left generalizing right with
  | nil =>
      cases right with
      | nil => exact ⟨rfl, (List.cons.inj same).2⟩
      | cons character right =>
          obtain rfl := (List.cons.inj same).1
          exact absurd List.mem_cons_self rightFree
  | cons character left inductionHypothesis =>
      cases right with
      | nil =>
          obtain rfl := (List.cons.inj same).1
          exact absurd List.mem_cons_self leftFree
      | cons first right =>
          obtain ⟨rfl, following⟩ := List.cons.inj same
          obtain ⟨rfl, rfl⟩ := inductionHypothesis (mt (List.mem_cons_of_mem _) leftFree)
            (mt (List.mem_cons_of_mem _) rightFree) following
          exact ⟨rfl, rfl⟩

/-- Digits tell numbers apart. -/
theorem toDigits_injective : Function.Injective (Nat.toDigits 10) := by
  intro left right same
  rw [← @Nat.ofDigitChars_ten_toDigits left, same, Nat.ofDigitChars_ten_toDigits]

/-- A number ends where its digits do. -/
theorem toDigits_append_inj {left right : Nat} (foreign : mark.isDigit = false)
    (same : Nat.toDigits 10 left ++ mark :: rest = Nat.toDigits 10 right ++ mark :: other) :
    left = right ∧ rest = other := by
  have absent (value : Nat) : mark ∉ Nat.toDigits 10 value := by
    intro member
    rw [Json.isDigit_of_mem_toDigits mark member] at foreign
    cases foreign
  obtain ⟨digits, following⟩ := append_mark_inj (absent left) (absent right) same
  exact ⟨toDigits_injective digits, following⟩

/-- What is written for an integer tells it apart from all others. -/
theorem toString_int_injective {left right : Int} (same : toString left = toString right) :
    left = right := by
  have read := congrArg (fun literal => (Json.number literal).int?) same
  rw [← Json.int, ← Json.int, Json.int?_int, Json.int?_int] at read
  exact Option.some.inj read

/-- A number between two texts. -/
def numbered (opening : String) (value : Nat) (closing : String) : List Char :=
  opening.toList ++ (Nat.toDigits 10 value ++ closing.toList)

/-- A number is written between two texts by its digits. -/
theorem toList_numbered (opening : String) (value : Nat) (closing : String) :
    (opening ++ toString value ++ closing).toList = numbered opening value closing := by
  simp [numbered]

/-- What closes a number starts with a mark that is no digit. -/
def ClosesNumber (closing : String) : Prop :=
  ∃ mark behind, closing.toList = mark :: behind ∧ mark.isDigit = false

/-- A number between two texts is read before what follows. -/
theorem numbered_append_inj {opening closing : String} (closes : ClosesNumber closing)
    {left right : Nat}
    (same : numbered opening left closing ++ rest = numbered opening right closing ++ other) :
    left = right ∧ rest = other := by
  obtain ⟨mark, behind, marked, foreign⟩ := closes
  simp only [numbered, marked, List.append_assoc, List.cons_append] at same
  obtain ⟨value, following⟩ := toDigits_append_inj foreign (List.append_cancel_left same)
  exact ⟨value, List.append_cancel_left following⟩

end Fields

namespace StepReport

/-- The line about the data pointer, with the line break in front of it. -/
def pointerLine (report : StepReport) : List Char :=
  numbered "\nPointer at [" report.dataPointer "]: " ++ (toString report.cell.toInt).toList

/-- The line about the configured cap, with the line break in front of it. -/
def capLine (report : StepReport) : List Char :=
  if report.limitReached then
    numbered "\nStopped after " report.executed.toNat " steps: run limit reached."
  else []

/-- The lines about what a program has written, whose number of steps and output differ. -/
def outputLines (opening closing : String) (report : StepReport) : List Char :=
  numbered opening report.totalSteps.toNat closing ++ Text.quotedChars report.output.toList

/-- A summary consists of the lines about the status, the cap and the pointer. -/
theorem summary_eq (label : String → String) (report : StepReport) :
    report.summary label = report.statusText label ++
      (if report.limitReached then
        "\nStopped after " ++ toString report.executed.toNat ++ " steps: run limit reached."
      else "") ++
      ("\nPointer at [" ++ toString report.dataPointer ++ "]: " ++ toString report.cell.toInt) :=
  rfl

/-- The characters of a summary are those of its lines. -/
theorem toList_summary (label : String → String) (report : StepReport) :
    (report.summary label).toList =
      (report.statusText label).toList ++ (report.capLine ++ report.pointerLine) := by
  have cap : (if report.limitReached then
        "\nStopped after " ++ toString report.executed.toNat ++ " steps: run limit reached."
      else "").toList = report.capLine := by
    rw [capLine]
    split
    · exact toList_numbered _ _ _
    · rfl
  rw [summary_eq, String.toList_append, String.toList_append, cap, List.append_assoc,
    String.toList_append, toList_numbered, pointerLine]

section Status

variable {label : String → String} {report : StepReport}

/-- The lines about what a program has written hold the number of steps and the quoted output. -/
theorem toList_outputLines (opening closing : String) (report : StepReport) :
    (opening ++ toString report.totalSteps.toNat ++ closing ++ Text.quoted report.output).toList =
      report.outputLines opening closing := by
  rw [String.toList_append, toList_numbered, outputLines, Text.quoted, String.toList_ofList]

/-- The lines of a finished program. -/
theorem toList_statusText_finished (finished : report.status = .finished) :
    (report.statusText label).toList =
      report.outputLines "Program Finished in " " steps.\nOutput: " := by
  rw [← toList_outputLines, statusText, finished]
  rfl

/-- The lines of a program that waits for input. -/
theorem toList_statusText_waiting (waiting : report.status = .waitingForInput) :
    (report.statusText label).toList =
      report.outputLines "PAUSED: Waiting for Input at step " ".\nOutput so far: " := by
  rw [← toList_outputLines, statusText, waiting]
  rfl

/-- The text of a status without output is its name with a label. -/
theorem toList_statusText_of_ne (unfinished : report.status ≠ .finished)
    (unblocked : report.status ≠ .waitingForInput) :
    (report.statusText label).toList =
      "Status: ".toList ++ (report.status.name.toList ++
        ' ' :: '(' :: ((label report.status.name).toList ++ ")".toList)) := by
  have text : report.statusText label =
      "Status: " ++ report.status.name ++ " (" ++ label report.status.name ++ ")" := by
    rw [statusText]
    split
    case h_1 finished => exact absurd finished unfinished
    case h_2 waiting => exact absurd waiting unblocked
    case h_3 => rfl
  have bracket : " (".toList = [' ', '('] := rfl
  rw [text, String.toList_append, String.toList_append, String.toList_append,
    String.toList_append, bracket]
  simp only [List.append_assoc, List.cons_append, List.nil_append]

/-- The number of steps of a finished program ends before a blank. -/
theorem closesNumber_finished : ClosesNumber " steps.\nOutput: " :=
  ⟨' ', "steps.\nOutput: ".toList, by decide +kernel, rfl⟩

/-- The step at which a program waits ends before a full stop. -/
theorem closesNumber_waiting : ClosesNumber ".\nOutput so far: " :=
  ⟨'.', "\nOutput so far: ".toList, by decide +kernel, rfl⟩

/-- The number of steps up to the cap ends before a blank. -/
theorem closesNumber_cap : ClosesNumber " steps: run limit reached." :=
  ⟨' ', "steps: run limit reached.".toList, by decide +kernel, rfl⟩

/-- The position of the pointer ends before a bracket. -/
theorem closesNumber_pointer : ClosesNumber "]: " :=
  ⟨']', ": ".toList, by decide +kernel, rfl⟩

/-- The first two characters of a summary, which tell how the status is shown. -/
def opening (status : Status) : List Char :=
  match status with
  | .finished => ['P', 'r']
  | .waitingForInput => ['P', 'A']
  | .ready | .running | .parserError | .overflowError | .underflowError => ['S', 't']

/-- A summary opens as its status says. -/
theorem take_statusText (report : StepReport) (rest : List Char) :
    ((report.statusText label).toList ++ rest).take 2 = opening report.status := by
  have finishedText : "Program Finished in ".toList =
      'P' :: 'r' :: "ogram Finished in ".toList := by decide +kernel
  have waitingText : "PAUSED: Waiting for Input at step ".toList =
      'P' :: 'A' :: "USED: Waiting for Input at step ".toList := by decide +kernel
  have otherText : "Status: ".toList = 'S' :: 't' :: "atus: ".toList := by decide +kernel
  by_cases finished : report.status = .finished
  · rw [toList_statusText_finished finished, outputLines, numbered, finishedText, finished]
    rfl
  by_cases waiting : report.status = .waitingForInput
  · rw [toList_statusText_waiting waiting, outputLines, numbered, waitingText, waiting]
    rfl
  · rw [toList_statusText_of_ne finished waiting, otherText]
    cases status : report.status with
    | finished => exact absurd status finished
    | waitingForInput => exact absurd status waiting
    | ready | running | parserError | overflowError | underflowError => rfl

end Status

/-- The status of a machine whose output is shown. -/
def ShowsOutput (report : StepReport) : Prop :=
  report.status = .finished ∨ report.status = .waitingForInput

instance (report : StepReport) : Decidable report.ShowsOutput :=
  inferInstanceAs (Decidable (_ ∨ _))

/-- Two reports agree on all that a summary shows. -/
structure ShowsSame (left right : StepReport) : Prop where
  status : left.status = right.status
  limitReached : left.limitReached = right.limitReached
  dataPointer : left.dataPointer = right.dataPointer
  cell : left.cell = right.cell
  executed : left.limitReached = true → left.executed = right.executed
  totalSteps : left.ShowsOutput → left.totalSteps = right.totalSteps
  output : left.ShowsOutput → left.output = right.output

section Same

variable {label : String → String} {left right : StepReport} {rest other : List Char}

/-- The lines about what a program has written are read before what follows. -/
theorem outputLines_append_inj {opening closing : String} (closes : ClosesNumber closing)
    (same : left.outputLines opening closing ++ rest = right.outputLines opening closing ++ other) :
    left.totalSteps = right.totalSteps ∧ left.output = right.output ∧ rest = other := by
  rw [outputLines, outputLines, List.append_assoc, List.append_assoc] at same
  obtain ⟨steps, quotes⟩ := numbered_append_inj closes same
  obtain ⟨output, following⟩ := Text.quotedChars_append_inj quotes
  exact ⟨UInt64.toNat_inj.mp steps, String.toList_injective output, following⟩

/-- The opening of a summary tells whether the program is finished or waits. -/
theorem iff_of_opening {left right : Status} (same : opening left = opening right) :
    (left = .finished ↔ right = .finished) ∧
      (left = .waitingForInput ↔ right = .waitingForInput) := by
  cases left <;> cases right <;> simp [opening] at same ⊢

/-- A status is told by its name. -/
theorem name_injective {left right : Status} (same : left.name = right.name) : left = right := by
  have read := congrArg Status.ofName? same
  rw [Status.ofName?_name, Status.ofName?_name] at read
  exact Option.some.inj read

/-- There is no blank in the name of a status. -/
theorem blank_not_mem_name (status : Status) : ' ' ∉ status.name.toList := by
  cases status <;> decide

/-- The lines about the status are read before what follows. -/
theorem statusText_append_inj
    (same : (left.statusText label).toList ++ rest = (right.statusText label).toList ++ other) :
    left.status = right.status ∧
      (left.ShowsOutput → left.totalSteps = right.totalSteps ∧ left.output = right.output) ∧
      rest = other := by
  have kind : opening left.status = opening right.status := by
    rw [← take_statusText, same, take_statusText]
  obtain ⟨finishedIff, waitingIff⟩ := iff_of_opening kind
  by_cases finished : left.status = .finished
  · have alike := finishedIff.mp finished
    rw [toList_statusText_finished finished, toList_statusText_finished alike] at same
    obtain ⟨steps, output, following⟩ := outputLines_append_inj closesNumber_finished same
    exact ⟨finished.trans alike.symm, fun _ => ⟨steps, output⟩, following⟩
  by_cases waiting : left.status = .waitingForInput
  · have alike := waitingIff.mp waiting
    rw [toList_statusText_waiting waiting, toList_statusText_waiting alike] at same
    obtain ⟨steps, output, following⟩ := outputLines_append_inj closesNumber_waiting same
    exact ⟨waiting.trans alike.symm, fun _ => ⟨steps, output⟩, following⟩
  · rw [toList_statusText_of_ne finished waiting,
      toList_statusText_of_ne (mt finishedIff.mpr finished) (mt waitingIff.mpr waiting)] at same
    simp only [List.append_assoc, List.cons_append] at same
    obtain ⟨names, label⟩ := append_mark_inj (blank_not_mem_name _) (blank_not_mem_name _)
      (List.append_cancel_left same)
    -- Nothing is known of labels but that the same status has the same, and so they cancel.
    have status := name_injective (String.toList_injective names)
    rw [status] at label
    have following := List.append_cancel_left (List.append_cancel_left (List.cons.inj label).2)
    exact ⟨status, fun shows => absurd shows (not_or.mpr ⟨finished, waiting⟩), following⟩

/-- The lines behind the status open as the cap says. -/
theorem take_closingLines (report : StepReport) :
    (report.capLine ++ report.pointerLine).take 2 =
      ['\n', if report.limitReached then 'S' else 'P'] := by
  have capText : "\nStopped after ".toList = '\n' :: 'S' :: "topped after ".toList := by
    decide +kernel
  have pointerText : "\nPointer at [".toList = '\n' :: 'P' :: "ointer at [".toList := by
    decide +kernel
  rw [capLine, pointerLine, numbered, numbered, capText, pointerText]
  cases report.limitReached <;> rfl

/-- The last line ends the text. -/
theorem pointerLine_inj (same : left.pointerLine = right.pointerLine) :
    left.dataPointer = right.dataPointer ∧ left.cell = right.cell := by
  obtain ⟨pointer, cell⟩ := numbered_append_inj closesNumber_pointer same
  exact ⟨pointer, Int64.toInt_inj.mp (toString_int_injective (String.toList_injective cell))⟩

/-- The lines behind the status are read to the end. -/
theorem closingLines_inj
    (same : left.capLine ++ left.pointerLine = right.capLine ++ right.pointerLine) :
    left.limitReached = right.limitReached ∧
      (left.limitReached = true → left.executed = right.executed) ∧
      left.dataPointer = right.dataPointer ∧ left.cell = right.cell := by
  have marks := congrArg (List.take 2) same
  rw [take_closingLines, take_closingLines] at marks
  cases reached : left.limitReached with
  | true =>
      have alike : right.limitReached = true := by
        cases other : right.limitReached <;> simp [reached, other] at marks ⊢
      rw [capLine, capLine, if_pos reached, if_pos alike] at same
      obtain ⟨executed, following⟩ := numbered_append_inj closesNumber_cap same
      exact ⟨alike.symm, fun _ => UInt64.toNat_inj.mp executed, pointerLine_inj following⟩
  | false =>
      have alike : right.limitReached = false := by
        cases other : right.limitReached <;> simp [reached, other] at marks ⊢
      rw [capLine, capLine, reached, alike] at same
      exact ⟨alike.symm, nofun, pointerLine_inj same⟩

/-- Reports with the same summary agree on all that it shows. -/
theorem showsSame_of_summary_eq (same : left.summary label = right.summary label) :
    left.ShowsSame right := by
  have lines := congrArg String.toList same
  rw [toList_summary, toList_summary] at lines
  obtain ⟨status, shown, closing⟩ := statusText_append_inj lines
  obtain ⟨limitReached, executed, dataPointer, cell⟩ := closingLines_inj closing
  exact ⟨status, limitReached, dataPointer, cell, executed, fun shows => (shown shows).1,
    fun shows => (shown shows).2⟩

end Same

section Lines

variable (report : StepReport)

/-- A number adds no line break. -/
theorem count_newline_numbered (opening closing : String) (value : Nat) :
    (numbered opening value closing).count '\n' =
      opening.toList.count '\n' + closing.toList.count '\n' := by
  have digits : (Nat.toDigits 10 value).count '\n' = 0 := by
    rw [List.count_eq_zero]
    intro member
    exact absurd (Json.isDigit_of_mem_toDigits _ member) (by decide)
  simp only [numbered, List.count_append, digits, Nat.zero_add]

/-- There is no line break in what is written for an integer. -/
theorem count_newline_toString (value : Int) : (toString value).toList.count '\n' = 0 := by
  rw [List.count_eq_zero]
  intro member
  cases value with
  | ofNat value =>
      rw [Int.ofNat_eq_natCast, Json.toList_toString_ofNat] at member
      exact absurd (Json.isDigit_of_mem_toDigits _ member) (by decide)
  | negSucc value =>
      rw [Json.toList_toString_negSucc, List.mem_cons] at member
      obtain sign | digit := member
      · exact absurd sign (by decide)
      · exact absurd (Json.isDigit_of_mem_toDigits _ digit) (by decide)

/-- What a program has written adds no line break. -/
theorem count_newline_outputLines (opening closing : String) :
    (report.outputLines opening closing).count '\n' =
      opening.toList.count '\n' + closing.toList.count '\n' := by
  rw [outputLines, List.count_append, count_newline_numbered,
    List.count_eq_zero.mpr (Text.newline_not_mem_quotedChars _), Nat.add_zero]

/-- The lines about the status are one, or two with the output. -/
theorem count_newline_statusText {label : String → String}
    (unbroken : '\n' ∉ (label report.status.name).toList) :
    (report.statusText label).toList.count '\n' = if report.ShowsOutput then 1 else 0 := by
  by_cases finished : report.status = .finished
  · rw [toList_statusText_finished finished, count_newline_outputLines, if_pos (.inl finished)]
    decide +kernel
  by_cases waiting : report.status = .waitingForInput
  · rw [toList_statusText_waiting waiting, count_newline_outputLines, if_pos (.inr waiting)]
    decide +kernel
  · have hidden : ¬ report.ShowsOutput := not_or.mpr ⟨finished, waiting⟩
    have name : report.status.name.toList.count '\n' = 0 := by
      cases report.status <;> decide
    have heading : "Status: ".toList.count '\n' = 0 := by decide +kernel
    have bracket : ")".toList.count '\n' = 0 := by decide +kernel
    rw [toList_statusText_of_ne finished waiting, if_neg hidden]
    simp only [List.count_append, List.count_cons, name, heading, bracket,
      List.count_eq_zero.mpr unbroken]
    rfl

/-- The line about the cap is one line, if there is one. -/
theorem count_newline_capLine :
    report.capLine.count '\n' = if report.limitReached then 1 else 0 := by
  rw [capLine]
  cases report.limitReached with
  | true =>
      rw [if_pos rfl, count_newline_numbered]
      decide +kernel
  | false => rfl

/-- The line about the pointer is one line. -/
theorem count_newline_pointerLine : report.pointerLine.count '\n' = 1 := by
  rw [pointerLine, List.count_append, count_newline_numbered, count_newline_toString]
  decide +kernel

/-- The lines of a summary are those of the debugger. -/
theorem lineCount_summary {label : String → String}
    (unbroken : '\n' ∉ (label report.status.name).toList) :
    lineCount (report.summary label) =
      2 + (if report.ShowsOutput then 1 else 0) + (if report.limitReached then 1 else 0) := by
  rw [lineCount, toList_summary, List.count_append, List.count_append,
    report.count_newline_statusText unbroken, count_newline_capLine, count_newline_pointerLine]
  omega

end Lines

end StepReport

namespace Session

/-- A report that a step or a run of a reachable session returns without a fault. -/
inductive Reported (report : StepReport) : Prop where
  | step {config session context count} (reachable : Reachable config session)
      (returned : (session.step context count).value = some report)
      (sound : (session.step context count).fault = none)
  | run {config session fuel context limit outcome} (reachable : Reachable config session)
      (ran : session.run fuel context limit = some outcome)
      (returned : outcome.value = some report) (sound : outcome.fault = none)

section Limit

variable {session : Session} {context : Context} {report : StepReport}

/-- A step does not know of a cap. -/
theorem limitReached_of_step {count : Int64}
    (returned : (session.step context count).value = some report) :
    report.limitReached = false := by
  rw [step, atEntry] at returned
  split at returned
  · cases returned
  · split at returned
    · cases returned
    · split at returned <;> cases returned
      rfl

/-- A chunk loop is stopped by the cap only while its machine could have gone on. -/
theorem running_of_concludeRun {capped : Bool} {ended : RunEnd}
    {outcome : Outcome (Option StepReport)}
    (ran : session.concludeRun capped ended = some outcome)
    (returned : outcome.value = some report) (reached : report.limitReached = true) :
    report.status = .running := by
  cases ended with
  | unfinished => cases ran
  | canceled machine left =>
      cases ran
      cases returned
      cases reached
  | done machine left =>
      cases ran
      cases returned
      have both := (Bool.and_eq_true _ _).mp reached
      exact beq_iff_eq.mp both.2

/-- Only a machine that could have gone on is stopped by the configured cap. -/
theorem Reported.running_of_limitReached (reported : Reported report)
    (reached : report.limitReached = true) : report.status = .running := by
  cases reported with
  | step reachable returned sound =>
      rw [limitReached_of_step returned] at reached
      cases reached
  | run reachable ran returned sound =>
      rw [run_eq] at ran
      split at ran
      · cases ran
        cases returned
      · split at ran
        · cases ran
          cases returned
        · exact running_of_concludeRun ran returned reached

end Limit

/-- There is no line break in the labels that the tools give. -/
theorem newline_not_mem_statusLabel (status : Status) :
    '\n' ∉ (statusLabel status.name).toList := by
  cases status <;> decide +kernel

/-- What a program writes cannot make its summary look like another one. Reports that steps and runs
return, in whatever sessions, have the same summary only if they agree on all that it shows, and the
summary has the lines of the debugger and no others. It does not matter how a status is labelled, as
long as there is no line break in a label. -/
theorem summary_cannot_be_forged {label : String → String}
    (unbroken : ∀ status : Status, '\n' ∉ (label status.name).toList) {report : StepReport}
    (reported : Reported report) :
    (∀ other, Reported other → other.summary label = report.summary label →
        other.ShowsSame report) ∧
      lineCount (report.summary label) =
        2 + (if report.ShowsOutput then 1 else 0) + (if report.limitReached then 1 else 0) ∧
      (report.limitReached = true → report.status = .running) :=
  ⟨fun _ _ same => StepReport.showsSame_of_summary_eq same,
    report.lineCount_summary (unbroken report.status), reported.running_of_limitReached⟩

/-- With the labels that the tools give, a program that writes a line break has no more lines in its
summary than any other. -/
theorem summary_cannot_be_forged_line_break :
    ∃ report, Reported report ∧ report.output = "\n" ∧
      lineCount (report.summary statusLabel) = 3 := by
  let limits : TapeLimits := ⟨1, -9, 10, by decide, by decide, by decide⟩
  let config : SessionConfig := { tapeSize := 1, minValue := some (-9), maxValue := some 10 }
  let fresh : Session :=
    { config := config.withDefaults, machine := .new limits, loaded := false, history := [] }
  have created : create config = .ok fresh := rfl
  let loaded := (fresh.load .background (Utf8.ofString "++++++++++.") [] {}).session
  have reachable : Reachable config loaded :=
    @Reachable.requested config fresh .background
      (.load (Utf8.ofString "++++++++++.") [] {}) _ (.created created) rfl
  have returned : (loaded.step .background 12).value = some
      { status := .finished, executed := 11, totalSteps := 11, dataPointer := 0, cell := 10,
        output := "\n", limitReached := false } := by decide +kernel
  have reported := Reported.step reachable returned (by decide +kernel)
  exact ⟨_, reported, rfl, (summary_cannot_be_forged newline_not_mem_statusLabel reported).2.1⟩

end Session

end TapeDebugger
