import BytecodeFacts.Proofs.Command.Ending

/-!
# What a run prints and logs

Whether a run prints on standard output, and what it logs, is settled by how its command line is
read and by the verdict on its request. Only a run that succeeds prints anything, and then all of
it; a rejection is logged last and alone.
-/

namespace BytecodeFacts.Command

/-- The records that a run shows, in order. -/
def shown (platform : Platform) (arguments : List String) : List Record :=
  match Request.ofArguments arguments with
  | .ok request => (request.perform platform).records.filter (Record.isShownAt request.threshold)
  | .error _ => []

/-- The record is none that asks for attention. -/
def Quiet (record : Record) : Prop := record.level ≠ .warning ∧ record.level ≠ .error

/-! ### Runs by their requests -/

section

variable {platform : Platform} {arguments : List String} {request : Request}

theorem run_of_read (hread : Request.ofArguments arguments = .ok request) :
    run platform arguments = request.transcript platform := by
  rw [run, hread]

theorem shown_of_read (hread : Request.ofArguments arguments = .ok request) :
    shown platform arguments =
      (request.perform platform).records.filter (Record.isShownAt request.threshold) := by
  rw [shown, hread]

theorem perform_of_info (hinfo : request.info = true) :
    request.perform platform =
      ⟨.returned 0, Request.infoLines platform, [request.openingRecord]⟩ := by
  simp [Request.perform, hinfo]

theorem perform_of_execute {outcome : Outcome} (hinfo : request.info = false)
    (hexecute : request.execute = outcome) :
    request.perform platform =
      { outcome with records := request.openingRecord :: outcome.records } := by
  simp [Request.perform, hinfo, hexecute]

theorem stderr_run (hread : Request.ofArguments arguments = .ok request) :
    (run platform arguments).stderr = String.join ((shown platform arguments).map Record.line) := by
  rw [run_of_read hread, shown_of_read hread]
  rfl

end

/-! ### Answers -/

/-- What a run that validates and plans makes of the verdict on its request. -/
structure Request.Answered (request : Request) (transcript : Transcript) (records : List Record) :
    Prop where
  rejects : transcript.ending = .returned 2 ↔
    ∃ rejection, request.verdict = .error (.rejected rejection)
  rejection : ∀ rejection, request.verdict = .error (.rejected rejection) →
    transcript.stdout = "" ∧
      ∃ before, records = before ++ [⟨.error, rejection.title ++ ": " ++ rejection.message⟩] ∧
        ∀ record ∈ before, Quiet record
  succeeds : transcript.ending = .returned 0 ↔ ∃ config, request.verdict = .ok config
  plan : ∀ config, request.verdict = .ok config →
    transcript.stdout =
        (if request.json then config.report.write ++ "\n"
        else unlines (config.plan.stages.map Enumeration.label)) ∧
      ∀ record ∈ records, record.level ≠ .error
  faults : (∃ fault, transcript.ending = .crashed fault) ↔ request.LosesMainClass
  fault : request.LosesMainClass → transcript.stdout = "" ∧ ∀ record ∈ records, Quiet record

theorem unlines_planLines (request : Request) (config : Configuration) :
    unlines (request.planLines config) =
      if request.json then config.report.write ++ "\n"
      else unlines (config.plan.stages.map Enumeration.label) := by
  rw [Request.planLines]
  split
  · simp [unlines]
  · rfl

theorem quiet_openingRecord (request : Request) : Quiet request.openingRecord := by
  simp [Quiet, Request.openingRecord]

section

variable (platform : Platform) {arguments : List String} {request : Request}

/-- In front of what the execution logs there stands at most the opening record. -/
theorem run_of_execute {outcome : Outcome} (hread : Request.ofArguments arguments = .ok request)
    (hinfo : request.info = false) (hexecute : request.execute = outcome) :
    (run platform arguments).ending = outcome.ending ∧
      (run platform arguments).stdout = unlines outcome.lines ∧
      ∃ before, shown platform arguments =
          before ++ outcome.records.filter (Record.isShownAt request.threshold) ∧
        ∀ record ∈ before, Quiet record := by
  rw [run_of_read hread, shown_of_read hread]
  simp only [Request.transcript, perform_of_execute hinfo hexecute, List.filter_cons, true_and]
  split
  · exact ⟨[request.openingRecord], rfl, by simpa using quiet_openingRecord request⟩
  · exact ⟨[], rfl, by simp⟩

theorem answered_of_ok {config : Configuration}
    (hread : Request.ofArguments arguments = .ok request) (hinfo : request.info = false)
    (hverdict : request.verdict = .ok config) :
    request.Answered (run platform arguments) (shown platform arguments) := by
  have hkept : ¬request.LosesMainClass := by
    rw [Request.losesMainClass_iff (Request.admissible_of_ofArguments hread), hverdict]
    simp
  obtain ⟨records, hexecute, hlevels⟩ := Request.execute_of_verdict_ok hverdict
  obtain ⟨hending, hstdout, before, hshown, hbefore⟩ :=
    run_of_execute platform hread hinfo hexecute
  have hplan : ∀ other, request.verdict = .ok other →
      (run platform arguments).stdout = unlines (request.planLines other) := by
    intro other hother
    rw [hverdict, Except.ok.injEq] at hother
    rw [hstdout, hother]
  have hclean : ∀ record ∈ shown platform arguments, record.level ≠ .error := by
    rw [hshown, List.forall_mem_append]
    refine ⟨fun record hrecord => (hbefore record hrecord).2, fun record hrecord => ?_⟩
    exact hlevels record (List.mem_filter.mp hrecord).1
  exact
    { rejects := by simp [hending, hverdict]
      rejection := by simp [hverdict]
      succeeds := by simp [hending, hverdict]
      plan := fun other hother => ⟨by rw [hplan other hother, unlines_planLines], hclean⟩
      faults := by simp [hending, hkept]
      fault := fun hloses => absurd hloses hkept }

theorem answered_of_rejected {rejection : Rejection}
    (hread : Request.ofArguments arguments = .ok request) (hinfo : request.info = false)
    (hverdict : request.verdict = .error (.rejected rejection)) :
    request.Answered (run platform arguments) (shown platform arguments) := by
  have hkept : ¬request.LosesMainClass := by
    rw [Request.losesMainClass_iff (Request.admissible_of_ofArguments hread), hverdict]
    simp
  obtain ⟨hending, hstdout, before, hshown, hbefore⟩ := run_of_execute platform hread
    hinfo (Request.execute_of_verdict_rejected hverdict)
  have hlogged : Record.isShownAt request.threshold (Request.rejectionRecord rejection) = true := by
    rw [Request.threshold]
    split <;> rfl
  rw [List.filter_cons_of_pos hlogged] at hshown
  exact
    { rejects := by simp [hending, hverdict, rejectedCode]
      rejection := by
        intro other hother
        rw [hverdict, Except.error.injEq, Fault.rejected.injEq] at hother
        subst hother
        exact ⟨hstdout, before, hshown, hbefore⟩
      succeeds := by simp [hending, hverdict, rejectedCode]
      plan := by simp [hverdict]
      faults := by simp [hending, hkept]
      fault := fun hloses => absurd hloses hkept }

theorem answered_of_losesMainClass (hread : Request.ofArguments arguments = .ok request)
    (hinfo : request.info = false) (hloses : request.LosesMainClass) :
    request.Answered (run platform arguments) (shown platform arguments) := by
  have hadmissible := Request.admissible_of_ofArguments hread
  have hverdict := Request.verdict_of_losesMainClass hadmissible hloses
  obtain ⟨hending, hstdout, before, hshown, hbefore⟩ := run_of_execute platform hread
    hinfo (Request.execute_of_losesMainClass hadmissible hloses)
  exact
    { rejects := by simp [hending, hverdict]
      rejection := by simp [hverdict]
      succeeds := by simp [hending, hverdict]
      plan := by simp [hverdict]
      faults := by simp [hending, hloses]
      fault := fun _ => ⟨hstdout, by simpa [hshown] using hbefore⟩ }

theorem answered_run (hread : Request.ofArguments arguments = .ok request)
    (hinfo : request.info = false) :
    request.Answered (run platform arguments) (shown platform arguments) := by
  obtain ⟨config, hverdict⟩ | ⟨rejection, hverdict⟩ | hloses :=
    Request.verdict_cases (Request.admissible_of_ofArguments hread)
  · exact answered_of_ok platform hread hinfo hverdict
  · exact answered_of_rejected platform hread hinfo hverdict
  · exact answered_of_losesMainClass platform hread hinfo hloses

theorem informed_run (hread : Request.ofArguments arguments = .ok request)
    (hinfo : request.info = true) :
    (run platform arguments).ending = .returned 0 ∧
      (run platform arguments).stdout = unlines (Request.infoLines platform) ∧
      ∀ record ∈ shown platform arguments, Quiet record := by
  rw [run_of_read hread, shown_of_read hread]
  simp only [Request.transcript, perform_of_info hinfo, true_and]
  intro record hrecord
  rw [List.mem_singleton.mp (List.mem_filter.mp hrecord).1]
  exact quiet_openingRecord request

/-- Nothing is printed unless the run succeeds or asks for help. -/
theorem silent_run (platform : Platform) (arguments : List String) :
    (run platform arguments).ending = .returned 0 ∨ (run platform arguments).ending = .exited 0 ∨
      (run platform arguments).stdout = "" := by
  cases hread : Request.ofArguments arguments with
  | error interruption =>
      rw [run, hread]
      cases interruption with
      | help => exact Or.inr (Or.inl rfl)
      | misuse misuse => exact Or.inr (Or.inr rfl)
  | ok request =>
      cases hinfo : request.info with
      | true => exact Or.inl (informed_run platform hread hinfo).1
      | false =>
          have hanswered := answered_run platform hread hinfo
          obtain hok | ⟨rejection, hverdict⟩ | hloses :=
            Request.verdict_cases (Request.admissible_of_ofArguments hread)
          · exact Or.inl (hanswered.succeeds.mpr hok)
          · exact Or.inr (Or.inr (hanswered.rejection rejection hverdict).1)
          · exact Or.inr (Or.inr (hanswered.fault hloses).1)

end

/-- **Failures print nothing.** Standard output stays empty unless the run returns 0 or asks for
help. A run that is asked for information gives it whatever the other options are and logs nothing
that asks for attention; any other run answers to the verdict on its request. -/
theorem output_run (platform : Platform) (arguments : List String) :
    ((run platform arguments).ending = .returned 0 ∨ (run platform arguments).ending = .exited 0 ∨
        (run platform arguments).stdout = "") ∧
      ∀ request, Request.ofArguments arguments = .ok request →
        (run platform arguments).stderr =
            String.join ((shown platform arguments).map Record.line) ∧
          (request.info = true →
            (run platform arguments).ending = .returned 0 ∧
              (run platform arguments).stdout = unlines (Request.infoLines platform) ∧
              ∀ record ∈ shown platform arguments, Quiet record) ∧
          (request.info = false →
            request.Answered (run platform arguments) (shown platform arguments)) :=
  ⟨silent_run platform arguments, fun _ hread =>
    ⟨stderr_run hread, informed_run platform hread, answered_run platform hread⟩⟩

/-- A run that no rejection stands in the way of can fail all the same. -/
theorem not_all_unrejected_runs_succeed :
    ¬∀ (platform : Platform) (arguments : List String) (request : Request),
      Request.ofArguments arguments = .ok request → request.info = false →
        (∀ rejection, request.verdict ≠ .error (.rejected rejection)) →
          (run platform arguments).ending = .returned 0 := by
  intro hall
  have hread := ofArguments_lostRequest
  have hverdict := Request.verdict_of_losesMainClass (Request.admissible_of_ofArguments hread)
    lostRequest_losesMainClass
  have hending := hall ⟨"Linux", "6.1", "x86_64", "Python 3.11"⟩ _ _ hread rfl (by simp [hverdict])
  have hanswered := answered_run ⟨"Linux", "6.1", "x86_64", "Python 3.11"⟩ hread rfl
  obtain ⟨config, hconfig⟩ := hanswered.succeeds.mp hending
  simp [hverdict] at hconfig

end BytecodeFacts.Command
