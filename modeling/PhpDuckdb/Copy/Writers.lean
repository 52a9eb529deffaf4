import PhpDuckdb.Copy.Execution

/-!
# Writers of COPY formats

At most one callback has the flag of the execution, so at most one has work at the request thread. A
failed call is known to the callback that made it until that closes the session; if no other work begins
before, the calls of every run follow the protocol of a writer.
-/

namespace PhpDuckdb.CopyWriter

open Handoff (RequestId)

variable {state : State} {stage : Stage} {self : Nat} {stuckLimit : Int}

/-! ## The work on the request thread -/

/-- The PHP state of a session knows the stage of its writer. -/
structure Matches (php : PhpState) (stage : Stage) : Prop where
  /-- The writer. -/
  writer : stage.writer = php.writer.object
  /-- Whether it is closed. -/
  closed : stage.closed = php.writer.closed
  /-- Nothing was aborted. -/
  aborted : stage.aborted = false
  /-- Nothing was released. -/
  released : stage.released = false
  /-- An `open()` without a writer failed. -/
  opened : stage.opened = true → stage.failed = true ∨ stage.writer.isSome

/-- What `open_writer` leaves: a writer that is ready, or a failure. -/
structure Opens (php : PhpState) (calls : List Call) (found : Except String Nat)
    (before after : Stage) : Prop where
  /-- The calls follow the protocol. -/
  ran : protocol.run before calls = some after
  /-- The PHP state knows it. -/
  fits : Matches php after
  /-- Nothing is closed. -/
  unclosed : after.closed = false
  /-- The writer is there. -/
  writer : ∀ writer, found = .ok writer → after.writer = some writer ∧ after.failed = false

/-- `open_writer` calls `open()` if there is no writer. -/
theorem openWriter_opens {php : PhpState} {opened : Handled} (format : String)
    (fits : Matches php stage) (fine : stage.failed = false) (unclosed : stage.closed = false)
    (sealed : (opened.outcome = .exit && opened.writer.isSome) = false) :
    ∃ after, Opens (openWriter format php opened).1 (openWriter format php opened).2.1
      (openWriter format php opened).2.2 stage after := by
  unfold openWriter
  split
  · rename_i writer is
    refine ⟨stage, rfl, fits, unclosed, ?_⟩
    rintro _ same
    obtain rfl := Except.ok.inj same
    exact ⟨fits.writer.trans is, fine⟩
  · rename_i absent
    have fresh : stage.opened = false := by
      by_contra was
      rcases fits.opened (by simpa using was) with failed | there
      · rw [fine] at failed
        cases failed
      · rw [fits.writer, absent] at there
        cases there
    split
    · exact ⟨stage, rfl, fits, unclosed, by rintro _ ⟨⟩⟩
    · split
      · split
        · rename_i writer is
          refine ⟨{ stage with opened := true, writer := some writer, failed := false },
            ?_, ⟨rfl, fits.closed, fits.aborted, fits.released, fun _ => .inr rfl⟩, unclosed, ?_⟩
          · simp [protocol, Stage.next, fresh]
          · rintro _ same
            obtain rfl := Except.ok.inj same
            exact ⟨rfl, rfl⟩
        · refine ⟨{ stage with opened := true, writer := none, failed := true },
            ?_, ⟨absent.symm, fits.closed, fits.aborted, fits.released, fun _ => .inl rfl⟩,
            unclosed, by rintro _ ⟨⟩⟩
          simp [protocol, Stage.next, fresh]
      · have lost : (if opened.outcome = .exit then opened.writer else none) = none := by
          split
          · rename_i exits
            simpa [exits] using sealed
          · rfl
        rw [lost]
        refine ⟨{ stage with opened := true, writer := none, failed := true },
          ?_, ⟨absent.symm, fits.closed, fits.aborted, fits.released, fun _ => .inl rfl⟩,
          unclosed, by rintro _ ⟨⟩⟩
        simp [protocol, Stage.next, fresh]

/-- What the work of a callback leaves. -/
structure Works (php : PhpState) (calls : List Call) (error : Option String) (closes : Bool)
    (before after : Stage) : Prop where
  /-- The calls follow the protocol. -/
  ran : protocol.run before calls = some after
  /-- The PHP state knows it. -/
  fits : Matches php after
  /-- A failed call is an error. -/
  failed : after.failed = true → error.isSome = true
  /-- Only a finalize closes. -/
  closed : after.closed = true → closes = true

/-- A run goes on with one more call. -/
theorem run_call {before middle after : Stage} {calls : List Call} {call : Call}
    (ran : protocol.run before calls = some middle) (next : middle.next call = some after) :
    protocol.run before (calls ++ [call]) = some after :=
  protocol.run_concat_some.mpr ⟨middle, ran, next⟩

variable {php : PhpState} {opened done : Handled} {format : String}

/-- The writer that `open_writer` has may be written to. -/
theorem Opens.writable {calls : List Call} {before after : Stage} {writer : Nat}
    (opens : Opens php calls (.ok writer) before after) : after.writable writer :=
  have found := opens.writer writer rfl
  ⟨found.1, opens.unclosed, found.2, opens.fits.released⟩

/-- `php_write` writes to the writer that `open_writer` has. -/
theorem phpWrite_works (fits : Matches php stage) (fine : stage.failed = false)
    (unclosed : stage.closed = false)
    (sealed : (opened.outcome = .exit && opened.writer.isSome) = false) :
    ∃ after, Works (phpWrite format php opened done).1 (phpWrite format php opened done).2.1
      (phpWrite format php opened done).2.2 false stage after := by
  obtain ⟨middle, opens⟩ := openWriter_opens format fits fine unclosed sealed
  unfold phpWrite
  split
  · rename_i next calls error is
    rw [is] at opens
    refine ⟨middle, opens.ran, opens.fits, fun _ => rfl, fun closed => ?_⟩
    rw [opens.unclosed] at closed
    cases closed
  · rename_i next calls writer is
    rw [is] at opens
    have ready := opens.writable
    split
    · refine ⟨{ middle with failed := false }, run_call opens.ran ?_,
        ⟨opens.fits.writer, opens.fits.closed, opens.fits.aborted, opens.fits.released,
          fun _ => .inr (by simp [ready.1])⟩, by simp, by simp [opens.unclosed]⟩
      simp [Stage.next, ready]
    · refine ⟨{ middle with failed := true }, run_call opens.ran ?_,
        ⟨opens.fits.writer, opens.fits.closed, opens.fits.aborted, opens.fits.released,
          fun _ => .inl rfl⟩, fun _ => rfl, by simp [opens.unclosed]⟩
      simp [Stage.next, ready]

/-- `php_finalize` closes the writer that `open_writer` has. -/
theorem phpFinalize_works (fits : Matches php stage) (fine : stage.failed = false)
    (unclosed : stage.closed = false)
    (sealed : (opened.outcome = .exit && opened.writer.isSome) = false) :
    ∃ after, Works (phpFinalize format php opened done).1 (phpFinalize format php opened done).2.1
      (phpFinalize format php opened done).2.2 true stage after := by
  obtain ⟨middle, opens⟩ := openWriter_opens format fits fine unclosed sealed
  unfold phpFinalize
  split
  · rename_i next calls error is
    rw [is] at opens
    exact ⟨middle, opens.ran, opens.fits, fun _ => rfl, fun _ => rfl⟩
  · rename_i next calls writer is
    rw [is] at opens
    have ready := opens.writable
    split
    · refine ⟨{ middle with closed := true, failed := false }, run_call opens.ran ?_,
        ⟨opens.fits.writer, rfl, opens.fits.aborted, opens.fits.released,
          fun _ => .inr (by simp [ready.1])⟩, by simp, fun _ => rfl⟩
      simp [Stage.next, ready]
    · refine ⟨{ middle with closed := false, failed := true }, run_call opens.ran ?_,
        ⟨opens.fits.writer, opens.unclosed.symm.trans opens.fits.closed, opens.fits.aborted,
          opens.fits.released, fun _ => .inl rfl⟩, fun _ => rfl, fun _ => rfl⟩
      simp [Stage.next, ready]

/-- `finish_session` aborts a writer that a failure left open, and releases it. -/
theorem finishSession_ends {failure : String} {callPhp made : Bool} (fits : Matches php stage) :
    ∃ after, protocol.run stage (finishSession php failure callPhp made) = some after ∧
      after.failed = stage.failed ∧ after.closed = stage.closed ∧
        (after.writer = none ∨ after.released = true) := by
  unfold finishSession
  split
  · rename_i absent
    exact ⟨stage, rfl, rfl, rfl, .inl (fits.writer.trans absent)⟩
  · rename_i writer is
    have has : stage.writer = some writer := fits.writer.trans is
    dsimp only
    split
    · rename_i aborts
      have open_ : php.writer.closed = false := by simp_all
      have fails : failure ≠ "" := by simp_all
      refine ⟨{ stage with aborted := true, released := true }, ?_, rfl, rfl, .inr rfl⟩
      simp [protocol, Stage.next, has, fits.closed.trans open_, fits.aborted, fits.released, fails]
    · refine ⟨{ stage with released := true }, ?_, rfl, rfl, .inr rfl⟩
      simp [protocol, Stage.next, has, fits.released]

/-! ## The flag of the execution -/

/-- The callback has set the flag that keeps others out. -/
def Callback.holds : Callback → Bool
  | .guarded | .submitted | .worked _ | .direct | .ran _ => true
  | _ => false

/-- The flag and the order of sinks and finalize. -/
structure Flagged (callback : RequestId → Callback) (inCallback : Bool) (sinks : List RequestId)
    (finalize : Option RequestId) : Prop where
  /-- The flag is set while a callback has it. -/
  flag : ∀ number, (callback number).holds = true → inCallback = true
  /-- Two callbacks never have it. -/
  alone : ∀ number other, (callback number).holds = true → (callback other).holds = true →
    number = other
  /-- Every callback is a sink or the finalize. -/
  called : ∀ number, callback number ≠ .absent → number ∈ finalize.toList ++ sinks
  /-- The finalize is called after the sinks returned. -/
  last : ∀ number, finalize = some number → callback number ≠ .absent ∧ number ∉ sinks ∧
    ∀ sink ∈ sinks, (callback sink).isReturned = true

variable {callback : RequestId → Callback} {inCallback : Bool} {sinks : List RequestId}
  {finalize : Option RequestId} {number : RequestId} {place : Callback}

/-- A callback that was not called is no sink. -/
theorem Flagged.new (flagged : Flagged callback inCallback sinks none)
    (absent : callback number = .absent) (place : Callback) (plain : place.holds = false) :
    Flagged (Function.update callback number place) inCallback (number :: sinks) none := by
  have same : ∀ other, (Function.update callback number place other).holds = true →
      (callback other).holds = true := by
    intro other holds
    by_cases is : other = number
    · subst is
      rw [Function.update_self, plain] at holds
      cases holds
    · rwa [Function.update_of_ne is] at holds
  refine ⟨fun other holds => flagged.flag other (same other holds),
    fun one other first second => flagged.alone one other (same one first) (same other second),
    fun other exists_ => ?_, by simp⟩
  by_cases is : other = number
  · simp [is]
  · rw [Function.update_of_ne is] at exists_
    have listed := flagged.called other exists_
    simp_all

/-- A callback that is the finalizer is flagged, and is no sink. -/
theorem Flagged.newFinalize (flagged : Flagged callback inCallback sinks none)
    (absent : callback number = .absent) (place : Callback) (plain : place.holds = false)
    (there : place ≠ .absent)
    (returned : ∀ sink ∈ sinks, (callback sink).isReturned = true) :
    Flagged (Function.update callback number place) inCallback sinks (some number) := by
  have begun := flagged.new absent place plain
  have outside : number ∉ sinks := by
    intro listed
    have back := returned number listed
    rw [absent] at back
    cases back
  refine ⟨begun.flag, begun.alone, fun other exists_ => by simpa using begun.called other exists_, ?_⟩
  intro other same
  obtain rfl := Option.some.inj same
  refine ⟨by simpa using there, outside, fun sink listed => ?_⟩
  have apart : sink ≠ number := by
    rintro rfl
    exact outside listed
  rw [Function.update_of_ne apart]
  exact returned sink listed

/-- A callback that moves on keeps the flags of the others. -/
theorem Flagged.move {next : Bool} (flagged : Flagged callback inCallback sinks finalize)
    (exists_ : callback number ≠ .absent) (unreturned : (callback number).isReturned = false)
    (there : place ≠ .absent) (flag : place.holds = true → next = true)
    (others : ∀ other, other ≠ number → (callback other).holds = true →
      next = true ∧ place.holds = false) :
    Flagged (Function.update callback number place) next sinks finalize := by
  refine ⟨fun other holds => ?_, fun one other first second => ?_, fun other is => ?_,
    fun last same => ?_⟩
  · by_cases is : other = number
    · subst is
      rw [Function.update_self] at holds
      exact flag holds
    · rw [Function.update_of_ne is] at holds
      exact (others other is holds).1
  · by_cases left : one = number
    · by_cases right : other = number
      · exact left.trans right.symm
      · subst left
        rw [Function.update_self] at first
        rw [Function.update_of_ne right] at second
        rw [(others other right second).2] at first
        cases first
    · rw [Function.update_of_ne left] at first
      by_cases right : other = number
      · subst right
        rw [Function.update_self] at second
        rw [(others one left first).2] at second
        cases second
      · rw [Function.update_of_ne right] at second
        exact flagged.alone one other first second
  · by_cases same : other = number
    · subst same
      exact flagged.called other exists_
    · rw [Function.update_of_ne same] at is
      exact flagged.called other is
  · obtain ⟨begun, outside, back⟩ := flagged.last last same
    have kept : ∀ other, callback other ≠ .absent →
        Function.update callback number place other ≠ .absent := by
      intro other is
      by_cases here : other = number
      · subst here
        rwa [Function.update_self]
      · rwa [Function.update_of_ne here]
    refine ⟨kept last begun, outside, fun sink listed => ?_⟩
    have apart : sink ≠ number := by
      rintro rfl
      rw [back sink listed] at unreturned
      cases unreturned
    rw [Function.update_of_ne apart]
    exact back sink listed

/-- A callback keeps or drops what it has of the flag. -/
theorem Flagged.keep (flagged : Flagged callback inCallback sinks finalize)
    (exists_ : callback number ≠ .absent) (unreturned : (callback number).isReturned = false)
    (there : place ≠ .absent) (had : place.holds = true → (callback number).holds = true) :
    Flagged (Function.update callback number place) inCallback sinks finalize := by
  refine flagged.move exists_ unreturned there (fun holds => flagged.flag number (had holds))
    fun other apart holds => ⟨flagged.flag other holds, ?_⟩
  by_contra here
  exact apart (flagged.alone other number holds (had (by simpa using here)))

/-! ## The callbacks and the stage -/

/-- The callback knows of a failure. -/
def Callback.failing : Callback → Bool
  | .worked error | .ran error | .dropped error => error.isSome
  | _ => false

/-- The callback's work ran, or never will. -/
def Callback.past : Callback → Bool
  | .worked _ | .ran _ | .dropped _ | .returned _ => true
  | _ => false

/-- The work of a callback began, directly or in a service call. -/
def Begun (callback : RequestId → Callback) (session : Handoff.State) (number : RequestId) : Prop :=
  callback number = .direct ∨
    callback number = .submitted ∧ session.service 0 = .holding number

/-- What the callbacks know of the stage. -/
structure Fits (callback : RequestId → Callback) (session : Handoff.State)
    (finalize : Option RequestId) (phpState : Option PhpState) (stage : Stage) : Prop where
  /-- Before the session ends its PHP state knows the stage. -/
  php : ∀ php, phpState = some php → Matches php stage
  /-- Afterwards the writer is released. -/
  ended : phpState = none → stage.writer = none ∨ stage.released = true
  /-- No work that began comes after a failure. -/
  begun : ∀ number, Begun callback session number → stage.failed = false
  /-- While the session is open, a callback knows of the failure. -/
  failed : stage.failed = true → session.isOpen = true →
    ∃ number, (callback number).failing = true
  /-- A finalize closed the writer. -/
  closed : stage.closed = true → ∃ number, finalize = some number ∧ (callback number).past = true

variable {session after : Handoff.State} {phpState : Option PhpState}

/-- The session goes on, and no callback's work begins. -/
theorem Fits.same (fits : Fits callback session finalize phpState stage)
    (opens : after.isOpen = true → session.isOpen = true)
    (holding : ∀ number, after.service 0 = .holding number → session.service 0 = .holding number) :
    Fits callback after finalize phpState stage := by
  refine ⟨fits.php, fits.ended, fun number begun => fits.begun number ?_,
    fun failed isOpen => fits.failed failed (opens isOpen), fits.closed⟩
  exact begun.imp_right fun there => ⟨there.1, holding number there.2⟩

/-- A callback moves on and keeps what it knows of a failure. -/
theorem Fits.move (fits : Fits callback session finalize phpState stage)
    (began : Begun (Function.update callback number place) session number → stage.failed = false)
    (failing : session.isOpen = true → (callback number).failing = true → place.failing = true)
    (past : (callback number).past = true → place.past = true) :
    Fits (Function.update callback number place) session finalize phpState stage := by
  refine ⟨fits.php, fits.ended, fun other begun => ?_, fun failed isOpen => ?_, fun closed => ?_⟩
  · by_cases is : other = number
    · subst is
      exact began begun
    · rw [Begun, Function.update_of_ne is] at begun
      exact fits.begun other begun
  · obtain ⟨other, known⟩ := fits.failed failed isOpen
    refine ⟨other, ?_⟩
    by_cases is : other = number
    · subst is
      rw [Function.update_self]
      exact failing isOpen known
    · rwa [Function.update_of_ne is]
  · obtain ⟨last, same, done⟩ := fits.closed closed
    refine ⟨last, same, ?_⟩
    by_cases is : last = number
    · subst is
      rw [Function.update_self]
      exact past done
    · rwa [Function.update_of_ne is]

/-- A session keeps handing its requests over. -/
theorem kept_step {event : Handoff.Event} (ok : Handoff.Consistent session)
    (stepped : Handoff.step self stuckLimit session event = some after) :
    Handoff.Consistent after :=
  Handoff.consistent_step session event after ok stepped

/-- A session that is open after a step was open before it. -/
theorem isOpen_step {event : Handoff.Event} (ok : Handoff.Consistent session)
    (stepped : Handoff.step self stuckLimit session event = some after)
    (isOpen : after.isOpen = true) : session.isOpen = true := by
  by_contra shut
  have stays := ((Handoff.onward_step session event after ok stepped).closed (by simpa using shut)).1
  rw [isOpen] at stays
  cases stays

/-- Closing a session leaves what it is serving. -/
theorem close_service (session : Handoff.State) (reason : String) :
    (session.close reason).service = session.service := by
  unfold Handoff.State.close
  split
  · rfl
  · rfl

/-- A closed session is not open. -/
theorem close_isOpen (session : Handoff.State) (reason : String) :
    (session.close reason).isOpen = false := by
  unfold Handoff.State.close
  split
  · rename_i shut
    simpa using shut
  · rfl

/-- A request is taken from the front of an open session's queue. -/
theorem holding_step {event : Handoff.Event} {call : Nat} {request : RequestId}
    (stepped : Handoff.step self stuckLimit session event = some after)
    (holding : after.service call = .holding request) :
    session.service call = .holding request ∨
      event = .take call ∧ session.isOpen = true ∧ session.queue.head? = some request := by
  cases event with
  | submit other now | wake other now =>
    rw [Handoff.step] at stepped
    split at stepped
    · obtain rfl := Option.some.inj stepped
      simp only [Handoff.submitEnter, Handoff.submitTurn] at holding
      refine .inl ?_
      split_ifs at holding <;> exact holding
    · cases stepped
  | enter other =>
    rw [Handoff.step] at stepped
    split at stepped
    · obtain rfl := Option.some.inj stepped
      rw [Handoff.State.setService_service] at holding
      split at holding
      · cases holding
      · exact .inl holding
    · cases stepped
  | take other =>
    rw [Handoff.step] at stepped
    split at stepped
    · obtain rfl := Option.some.inj stepped
      unfold Handoff.serviceTake at holding
      split at holding
      · rw [Handoff.State.setService_service] at holding
        split at holding
        · cases holding
        · exact .inl holding
      · rename_i isOpen
        split at holding
        · rw [Handoff.State.setService_service] at holding
          split at holding
          · cases holding
          · exact .inl holding
        · rename_i head rest queue
          rw [Handoff.State.setService_service] at holding
          split at holding
          · rename_i same
            obtain rfl := Handoff.Service.holding.inj holding
            exact .inr ⟨by rw [same], by simpa using isOpen, by rw [queue, List.head?_cons]⟩
          · exact .inl holding
    · cases stepped
  | work other | finish other =>
    rw [Handoff.step] at stepped
    split at stepped
    · obtain rfl := Option.some.inj stepped
      have moved := Handoff.State.setService_service _ other call _ ▸ holding
      split at moved
      · cases moved
      · exact .inl moved
    · cases stepped
  | unwind other reason =>
    simp only [Handoff.step] at stepped
    split at stepped
    · cases reason with
      | none =>
        obtain rfl := Option.some.inj stepped
        rw [Handoff.State.setService_service] at holding
        split at holding
        · cases holding
        · exact .inl holding
      | some reason =>
        obtain rfl := Option.some.inj stepped
        rw [Handoff.State.setService_service] at holding
        split at holding
        · cases holding
        · exact .inl (close_service session reason ▸ holding)
    · cases stepped
  | close reason =>
    obtain rfl := Option.some.inj stepped
    exact .inl (close_service session reason ▸ holding)
  | drive driver =>
    obtain rfl := Option.some.inj stepped
    exact .inl holding

/-! ## One step -/

/-- What holds of a session and its execution. -/
structure Consistent (state : State) : Prop where
  /-- The session hands its requests over. -/
  session : Handoff.Consistent state.session
  /-- One callback has the flag. -/
  flagged : Flagged state.callback state.inCallback state.sinks state.finalize
  /-- The calls follow the protocol. -/
  known : ∃ stage, protocol.run .start state.calls = some stage ∧
    Fits state.callback state.session state.finalize state.phpState stage

/-- A new execution has called nothing and is consistent. -/
theorem consistent_start (format : String) (attached : Option Bool) :
    Consistent (.start format attached) := by
  refine ⟨Handoff.consistent_new, ⟨?_, ?_, ?_, ?_⟩, .start, rfl, ?_, ?_, ?_, ?_, ?_⟩
  · simp [State.start, Callback.holds]
  · simp [State.start, Callback.holds]
  · simp [State.start]
  · simp [State.start]
  · rintro php is
    obtain ⟨pinned, -, rfl⟩ := Option.map_eq_some_iff.mp is
    exact ⟨rfl, rfl, rfl, rfl, fun opened => by cases opened⟩
  · exact fun _ => .inl rfl
  · exact fun _ _ => rfl
  · exact fun failed => by cases failed
  · exact fun closed => by cases closed

/-- Closing the session keeps the execution consistent. -/
theorem Consistent.close (consistent : Consistent state) (reason : String) :
    Consistent (state.close reason) := by
  obtain ⟨stage, ran, fits⟩ := consistent.known
  refine ⟨Handoff.consistent_close consistent.session reason, consistent.flagged, stage, ran, ?_⟩
  refine fits.same (fun isOpen => ?_) fun number holding => ?_
  · rw [State.close, close_isOpen] at isOpen
    cases isOpen
  · rwa [State.close, close_service] at holding

/-- A callback moves on without beginning its work. -/
theorem Consistent.move (consistent : Consistent state) (next : Bool)
    (flagged : Flagged (Function.update state.callback number place) next state.sinks state.finalize)
    (still : place ≠ .direct ∧ place ≠ .submitted)
    (failing : state.session.isOpen = true → (state.callback number).failing = true →
      place.failing = true)
    (past : (state.callback number).past = true → place.past = true) :
    Consistent { state.setCallback number place with inCallback := next } := by
  obtain ⟨stage, ran, fits⟩ := consistent.known
  refine ⟨consistent.session, flagged, stage, ran, fits.move (fun begun => ?_) failing past⟩
  rw [Begun, Function.update_self] at begun
  rcases begun with direct | submitted
  · exact absurd direct still.1
  · exact absurd submitted.1 still.2

/-- A callback sees whether the session is open. -/
theorem Consistent.enter (consistent : Consistent state) (absent : state.callback number = .absent)
    (unfinished : state.finalize = none) :
    Consistent { state.enter number with sinks := number :: state.sinks } ∧
      ((∀ sink ∈ state.sinks, (state.callback sink).isReturned = true) →
        Consistent { state.enter number with finalize := some number }) := by
  obtain ⟨stage, ran, fits⟩ := consistent.known
  have flagged := consistent.flagged
  rw [unfinished] at flagged fits
  obtain ⟨place, entered, plain, there, still⟩ : ∃ place : Callback,
      state.enter number = state.setCallback number place ∧ place.holds = false ∧ place ≠ .absent ∧
        place ≠ .direct ∧ place ≠ .submitted := by
    rw [State.enter]
    split
    · exact ⟨.entered, rfl, rfl, by simp, by simp, by simp⟩
    · exact ⟨_, rfl, rfl, by simp, by simp, by simp⟩
  have moved : Fits (Function.update state.callback number place) state.session none state.phpState
      stage := by
    refine fits.move (fun begun => ?_) (by simp [absent, Callback.failing])
      (by simp [absent, Callback.past])
    rw [Begun, Function.update_self] at begun
    rcases begun with direct | submitted
    · exact absurd direct still.1
    · exact absurd submitted.1 still.2
  rw [entered]
  refine ⟨⟨consistent.session, ?_, stage, ran, ?_⟩, fun returned =>
    ⟨consistent.session, ?_, stage, ran, ?_⟩⟩
  · exact unfinished ▸ flagged.new absent place plain
  · exact unfinished ▸ moved
  · exact flagged.newFinalize absent place plain there returned
  · refine ⟨moved.php, moved.ended, moved.begun, moved.failed, fun closed => ?_⟩
    obtain ⟨last, none_, -⟩ := moved.closed closed
    cases none_

/-- The execution stays consistent when it first looks at its session. -/
theorem Consistent.globalInit (consistent : Consistent state) : Consistent state.globalInit := by
  rw [State.globalInit]
  split
  · exact consistent
  · split
    · have counted : Consistent { state with copyInits := state.copyInits + 1 } :=
        ⟨consistent.session, consistent.flagged, consistent.known⟩
      exact counted.close parallelMessage
    · exact ⟨consistent.session, consistent.flagged, consistent.known⟩

/-- Where work may begin there was no failure. -/
theorem Consistent.calm (consistent : Consistent state) (settled : state.unsettled = false)
    (isOpen : state.session.isOpen = true) (holds : (state.callback number).holds = true)
    (unknowing : (state.callback number).failing = false)
    (ran : protocol.run .start state.calls = some stage)
    (fits : Fits state.callback state.session state.finalize state.phpState stage) :
    stage.failed = false := by
  by_contra bad
  have failed : stage.failed = true := by simpa using bad
  have called : state.calls.any Call.failed = true :=
    List.any_eq_true.mpr ((reads_run ran).failure failed)
  obtain ⟨other, knows⟩ := fits.failed failed isOpen
  have dropped : (state.callback other).droppedFailed = true := by
    cases place : state.callback other with
    | dropped error =>
      rw [place] at knows
      exact knows
    | worked error | ran error =>
      have both := consistent.flagged.alone other number (by rw [place, Callback.holds]) holds
      rw [← both, knows] at unknowing
      cases unknowing
    | _ =>
      rw [place] at knows
      cases knows
  have listed : other ∈ state.called := by
    refine consistent.flagged.called other fun absent => ?_
    rw [absent] at knows
    cases knows
  have unsettled : state.unsettled = true := by
    rw [State.unsettled, isOpen, called, Bool.true_and, Bool.true_and]
    exact List.any_eq_true.mpr ⟨other, listed, dropped⟩
  rw [settled] at unsettled
  cases unsettled

/-- A callback that submits its work keeps the execution consistent. -/
theorem Consistent.submit (consistent : Consistent state) {now : Int}
    (guarded : state.callback number = .guarded)
    (stepped : Handoff.step self stuckLimit state.session (.submit number now) = some session) :
    Consistent { state.setCallback number .submitted with session := session } := by
  obtain ⟨stage, ran, fits⟩ := consistent.known
  have flagged : Flagged (Function.update state.callback number .submitted) state.inCallback
      state.sinks state.finalize :=
    consistent.flagged.keep (by simp [guarded]) (by simp [guarded, Callback.isReturned]) (by simp)
      fun _ => by rw [guarded, Callback.holds]
  have onward : Fits state.callback session state.finalize state.phpState stage := by
    refine fits.same (isOpen_step consistent.session stepped) fun other holding => ?_
    rcases holding_step stepped holding with before | ⟨taken, -⟩
    · exact before
    · cases taken
  refine ⟨kept_step consistent.session stepped, flagged, stage, ran,
    onward.move (fun begun => ?_) (by simp [guarded, Callback.failing])
      (by simp [guarded, Callback.past])⟩
  rw [Begun, Function.update_self] at begun
  rcases begun with direct | ⟨-, holding⟩
  · cases direct
  · -- The request is new, so `service` does not have it.
    rcases holding_step stepped holding with before | ⟨taken, -⟩
    · have started := (consistent.session.holding 0 number before).1
      have waits := consistent.session.taken number started
      rw [Handoff.step] at stepped
      split at stepped
      · rename_i absent
        rw [absent] at waits
        simp at waits
      · cases stepped
    · cases taken

/-- A callback on the request thread begins its work. -/
theorem Consistent.onRequestThread (consistent : Consistent state)
    (settled : state.unsettled = false) (guarded : state.callback number = .guarded)
    (isOpen : state.session.isOpen = true) : Consistent (state.setCallback number .direct) := by
  obtain ⟨stage, ran, fits⟩ := consistent.known
  have flagged : Flagged (Function.update state.callback number .direct) state.inCallback
      state.sinks state.finalize :=
    consistent.flagged.keep (by simp [guarded]) (by simp [guarded, Callback.isReturned]) (by simp)
      fun _ => by rw [guarded, Callback.holds]
  refine ⟨consistent.session, flagged, stage, ran, fits.move (fun _ => ?_)
    (by simp [guarded, Callback.failing]) (by simp [guarded, Callback.past])⟩
  exact consistent.calm settled isOpen (by rw [guarded, Callback.holds])
    (by simp [guarded, Callback.failing]) ran fits

/-- The work of a callback keeps the execution consistent. -/
theorem Consistent.runWork (consistent : Consistent state) {opened done : Handled}
    {error : Option String} {worked : State}
    (sealed : (opened.outcome = .exit && opened.writer.isSome) = false)
    (begun : Begun state.callback state.session number)
    (ran : state.runWork number opened done = (worked, error)) (place : Callback)
    (holds : place.holds = true) (failing : place.failing = error.isSome)
    (past : place.past = true) (unstarted : place ≠ .direct ∧ place ≠ .submitted) :
    Consistent (worked.setCallback number place) := by
  obtain ⟨stage, before, fits⟩ := consistent.known
  have here : (state.callback number).holds = true ∧ (state.callback number).failing = false ∧
      (state.callback number).past = false ∧ (state.callback number).isReturned = false ∧
        state.callback number ≠ .absent := by
    rcases begun with direct | ⟨submitted, -⟩
    · simp [direct, Callback.holds, Callback.failing, Callback.past, Callback.isReturned]
    · simp [submitted, Callback.holds, Callback.failing, Callback.past, Callback.isReturned]
  obtain ⟨had, unknowing, unfinished, unreturned, there⟩ := here
  have placed : place ≠ .absent := by
    rintro rfl
    cases holds
  have flagged := consistent.flagged.keep there unreturned placed fun _ => had
  have idle : ∀ other, ¬Begun (Function.update state.callback number place) state.session other := by
    intro other starts
    by_cases is : other = number
    · subst is
      rw [Begun, Function.update_self] at starts
      rcases starts with direct | ⟨submitted, -⟩
      · exact unstarted.1 direct
      · exact unstarted.2 submitted
    · rw [Begun, Function.update_of_ne is] at starts
      refine is (consistent.flagged.alone other number ?_ had)
      rcases starts with direct | ⟨submitted, -⟩
      · rw [direct, Callback.holds]
      · rw [submitted, Callback.holds]
  unfold State.runWork at ran
  split at ran
  · obtain ⟨rfl, rfl⟩ := Prod.mk.inj ran
    refine ⟨consistent.session, flagged, stage, before, fits.move
      (fun starts => absurd starts (idle number)) (fun _ known => ?_) fun _ => past⟩
    rw [unknowing] at known
    cases known
  · rename_i php is
    have fine : stage.failed = false := fits.begun number begun
    have unclosed : stage.closed = false := by
      by_contra shut
      obtain ⟨last, finalizes, done⟩ := fits.closed (by simpa using shut)
      by_cases same : number = last
      · rw [← same, unfinished] at done
        cases done
      · have listed := consistent.flagged.called number there
        rw [finalizes, Option.toList_some, List.singleton_append, List.mem_cons] at listed
        have sink := listed.resolve_left same
        rw [(consistent.flagged.last last finalizes).2.2 number sink] at unreturned
        cases unreturned
    obtain ⟨after, works⟩ : ∃ after, Works (if state.finalize = some number then
          phpFinalize state.format php opened done else phpWrite state.format php opened done).1
        (if state.finalize = some number then
          phpFinalize state.format php opened done else phpWrite state.format php opened done).2.1
        (if state.finalize = some number then
          phpFinalize state.format php opened done else phpWrite state.format php opened done).2.2
        (state.finalize = some number) stage after := by
      split
      · rename_i last
        simpa [last] using phpFinalize_works (fits.php php is) fine unclosed sealed
      · rename_i other
        simpa [other] using phpWrite_works (fits.php php is) fine unclosed sealed
    obtain ⟨rfl, rfl⟩ := Prod.mk.inj ran
    refine ⟨consistent.session, flagged, after, ?_, ?_, ?_, ?_, ?_, ?_⟩
    · change protocol.run .start (state.calls ++ _) = some after
      rw [Machine.run_append, before]
      exact works.ran
    · intro next same
      obtain rfl := Option.some.inj same
      exact works.fits
    · exact fun none_ => by cases none_
    · exact fun other starts => absurd starts (idle other)
    · intro bad _
      refine ⟨number, ?_⟩
      simp only [State.setCallback, Function.update_self]
      rw [failing]
      exact works.failed bad
    · intro shut
      refine ⟨number, of_decide_eq_true (works.closed shut), ?_⟩
      simpa [State.setCallback] using past

/-- Running work leaves the session to itself. -/
theorem runWork_session (opened done : Handled) :
    (state.runWork number opened done).1.session = state.session := by
  unfold State.runWork
  split
  · rfl
  · rfl

/-- The session goes on, and `service` takes no request. -/
theorem Consistent.serve (consistent : Consistent state) {event : Handoff.Event}
    (stepped : Handoff.step self stuckLimit state.session event = some session)
    (other : ∀ call, event ≠ .take call) : Consistent { state with session := session } := by
  obtain ⟨stage, ran, fits⟩ := consistent.known
  refine ⟨kept_step consistent.session stepped, consistent.flagged, stage, ran,
    fits.same (isOpen_step consistent.session stepped) fun number holding => ?_⟩
  rcases holding_step stepped holding with before | ⟨taken, -⟩
  · exact before
  · exact absurd taken (other 0)

/-- The execution stays consistent when `service` takes the next request. -/
theorem Consistent.take (consistent : Consistent state) {call : Nat}
    (settled : Settled state (.session (.take call)))
    (stepped : Handoff.step self stuckLimit state.session (.take call) = some session) :
    Consistent { state with session := session } := by
  obtain ⟨stage, ran, fits⟩ := consistent.known
  refine ⟨kept_step consistent.session stepped, consistent.flagged, stage, ran, fits.php, fits.ended,
    fun number begun => ?_, fun failed isOpen => fits.failed failed
      (isOpen_step consistent.session stepped isOpen), fits.closed⟩
  rcases begun with direct | ⟨submitted, holding⟩
  · exact fits.begun number (.inl direct)
  · rcases holding_step stepped holding with before | ⟨-, isOpen, head⟩
    · exact fits.begun number (.inr ⟨submitted, before⟩)
    · have place : state.callback number = .submitted := submitted
      have begins : state.begins (.session (.take call)) = true := by
        rw [State.begins, head, Option.any_some, place]
        rfl
      have calm : state.unsettled = false := by
        by_contra not_
        exact settled.1 ⟨begins, by simpa using not_⟩
      exact consistent.calm calm isOpen (by rw [place, Callback.holds])
        (by simp [place, Callback.failing]) ran fits

/-- The request thread runs the work of a request. -/
theorem Consistent.work (consistent : Consistent state) {opened done : Handled} {last : State}
    (sealed : (opened.outcome = .exit && opened.writer.isSome) = false)
    (stepped : step self stuckLimit state (.work opened done) = some last) : Consistent last := by
  simp only [step] at stepped
  split at stepped
  · rename_i request holding
    obtain ⟨session, went, stepped⟩ := Option.bind_eq_some_iff.mp stepped
    split at stepped
    · obtain rfl := Option.some.inj stepped
      exact consistent.serve went (by simp)
    · rename_i submitted
      obtain rfl := Option.some.inj stepped
      have worked := consistent.runWork sealed (.inr ⟨submitted, holding⟩) rfl
        (.worked (state.runWork request opened done).2) rfl rfl rfl (by simp)
      refine worked.serve (?_ : Handoff.step self stuckLimit _ (.work 0) = _) (by simp)
      rw [← went]
      exact congrArg (Handoff.step self stuckLimit · (.work 0)) (runWork_session opened done)
    · cases stepped
  · cases stepped

/-- The wait for a callback's work ends for a callback with the flag, which then knows of a failure. -/
theorem result_some {error : Option String} (result : state.result number = some error) :
    (state.callback number).holds = true ∧ (state.callback number).isReturned = false ∧
      ((state.callback number).failing = true → error.isSome = true) := by
  rw [State.result] at result
  split at result
  · rename_i place _
    obtain rfl := Option.some.inj result
    rw [place]
    exact ⟨rfl, rfl, id⟩
  · rename_i place _
    rw [place]
    exact ⟨rfl, rfl, fun known => by cases known⟩
  · rename_i place
    obtain rfl := Option.some.inj result
    rw [place]
    exact ⟨rfl, rfl, id⟩
  · cases result

/-- The session ends, and its writer is released. -/
theorem Consistent.sessionEnd (consistent : Consistent state) (failure : String)
    (canCallPhp bailout made : Bool) :
    Consistent (state.sessionEnd failure canCallPhp bailout made) := by
  rw [State.sessionEnd]
  have closed := consistent.close (if failure = "" then "COPY statement finished" else failure)
  split
  · exact closed
  · rename_i php is
    obtain ⟨stage, ran, fits⟩ := closed.known
    obtain ⟨after, went, failed, shut, ended⟩ := finishSession_ends (fits.php php is)
    refine ⟨closed.session, closed.flagged, after, ?_, fun _ none_ => (by cases none_),
      fun _ => ended, fun number begun => failed.trans (fits.begun number begun),
      fun bad isOpen => fits.failed (failed.symm.trans bad) isOpen,
      fun done => fits.closed (shut.symm.trans done)⟩
    change protocol.run .start (state.calls ++ _) = some after
    rw [Machine.run_append]
    exact (congrArg (Option.bind · _) ran).trans went

/-- No callback has a number that was not used. -/
theorem unused_absent (unused : state.unused number = true) : state.callback number = .absent :=
  of_decide_eq_true (Bool.and_eq_true_iff.mp unused).1

/-- An event that meets the condition keeps the execution consistent. -/
theorem consistent_step {event : Event} {last : State} (consistent : Consistent state)
    (settled : Settled state event) (stepped : step self stuckLimit state event = some last) :
    Consistent last := by
  cases event with
  | globalInit =>
    obtain rfl := Option.some.inj stepped
    exact consistent.globalInit
  | sink number =>
    simp only [step] at stepped
    split at stepped
    · rename_i allowed
      obtain rfl := Option.some.inj stepped
      exact (consistent.enter (unused_absent allowed.2.2) allowed.2.1).1
    · cases stepped
  | finalize number =>
    simp only [step] at stepped
    split at stepped
    · rename_i allowed
      obtain rfl := Option.some.inj stepped
      exact (consistent.enter (unused_absent allowed.2.2.1) allowed.2.1).2 allowed.2.2.2
    · cases stepped
  | exchange number =>
    simp only [step] at stepped
    split at stepped
    · rename_i entered
      have there : state.callback number ≠ .absent := by simp [entered]
      have unreturned : (state.callback number).isReturned = false := by
        simp [entered, Callback.isReturned]
      split at stepped
      · obtain rfl := Option.some.inj stepped
        have shut := consistent.close parallelMessage
        refine shut.move state.inCallback ?_ (by simp) (fun isOpen => ?_) fun _ => rfl
        · exact consistent.flagged.keep there unreturned (by simp) fun has => by cases has
        · rw [State.close, close_isOpen] at isOpen
          cases isOpen
      · rename_i free
        obtain rfl := Option.some.inj stepped
        refine consistent.move true ?_ (by simp) (by simp [entered, Callback.failing])
          (by simp [entered, Callback.past])
        refine consistent.flagged.move there unreturned (by simp) (fun _ => rfl)
          fun other _ holds => absurd (consistent.flagged.flag other holds) free
    · cases stepped
  | submit number now =>
    simp only [step] at stepped
    split at stepped
    · rename_i guarded
      obtain ⟨session, went, rfl⟩ := Option.map_eq_some_iff.mp stepped
      exact consistent.submit guarded went
    · cases stepped
  | onRequestThread number =>
    simp only [step] at stepped
    split at stepped
    · rename_i guarded
      split at stepped
      · rename_i isOpen
        obtain rfl := Option.some.inj stepped
        refine consistent.onRequestThread ?_ guarded isOpen
        by_contra not_
        exact settled.1 ⟨rfl, by simpa using not_⟩
      · obtain rfl := Option.some.inj stepped
        refine consistent.move state.inCallback ?_ (by simp) (fun _ _ => rfl) fun _ => rfl
        exact consistent.flagged.keep (by simp [guarded]) (by simp [guarded, Callback.isReturned])
          (by simp) fun _ => by rw [guarded, Callback.holds]
    · cases stepped
  | work opened done => exact consistent.work settled.2 stepped
  | workDirect number opened done =>
    simp only [step] at stepped
    split at stepped
    · rename_i direct
      obtain rfl := Option.some.inj stepped
      exact consistent.runWork settled.2 (.inl direct) rfl (.ran _) rfl rfl rfl (by simp)
    · cases stepped
  | store number =>
    simp only [step] at stepped
    obtain ⟨error, result, rfl⟩ := Option.map_eq_some_iff.mp stepped
    obtain ⟨holds, unreturned, knows⟩ := result_some result
    have there : state.callback number ≠ .absent := by
      intro absent
      rw [absent] at holds
      cases holds
    refine consistent.move false ?_ (by simp) (fun _ => knows) fun _ => rfl
    refine consistent.flagged.move there unreturned (by simp) (fun has => by cases has)
      fun other apart has => absurd (consistent.flagged.alone other number has holds) apart
  | finish number =>
    simp only [step] at stepped
    split at stepped
    · rename_i dropped
      obtain rfl := Option.some.inj stepped
      refine consistent.move state.inCallback ?_ (by simp) (by simp [dropped, Callback.failing])
        fun _ => rfl
      exact consistent.flagged.keep (by simp [dropped]) (by simp [dropped, Callback.isReturned])
        (by simp) fun has => by cases has
    · rename_i error dropped
      obtain rfl := Option.some.inj stepped
      have shut := consistent.close error
      refine shut.move state.inCallback ?_ (by simp) (fun isOpen => ?_) fun _ => rfl
      · exact consistent.flagged.keep (by simp [dropped]) (by simp [dropped, Callback.isReturned])
          (by simp) fun has => by cases has
      · rw [State.close, close_isOpen] at isOpen
        cases isOpen
    · cases stepped
  | session event =>
    simp only [step] at stepped
    split at stepped
    · obtain ⟨session, went, rfl⟩ := Option.map_eq_some_iff.mp stepped
      cases event with
      | take call => exact consistent.take settled went
      | _ => exact consistent.serve went (by simp)
    · cases stepped
  | sessionEnd failure canCallPhp bailout made =>
    simp only [step] at stepped
    split at stepped
    · obtain rfl := Option.some.inj stepped
      exact consistent.sessionEnd failure canCallPhp bailout made
    · cases stepped

/-! ## Whole runs -/

/-- The calls of an execution follow the protocol, and a writer that `open()` returned is released once,
when the session ends. -/
structure Follows (state : State) : Prop where
  /-- The calls are orderly. -/
  orderly : Orderly state.calls
  /-- The writer is released with the session. -/
  released : ∀ writer ok, .openWriter (some writer) ok ∈ state.calls →
    state.calls.count (.release writer) = if state.phpState = none then 1 else 0

/-- In every run that begins no callback's work between another one's dropping the flag after a failed
call and its closing the session, and in which no `open()` returns a writer with an exit pending, the
calls follow the protocol. -/
theorem writer_protocol {format : String} {attached : Option Bool} {events : List Event}
    (settled : (execution self stuckLimit).Along Settled (.start format attached) events)
    (ran : (execution self stuckLimit).run (.start format attached) events = some state) :
    Follows state := by
  have keeps : ∀ before event after, Consistent before → Settled before event →
      (execution self stuckLimit).step before event = some after → Consistent after :=
    fun _ _ _ before meets stepped => consistent_step before meets stepped
  have consistent := Machine.run_preserves_along keeps (consistent_start format attached) settled ran
  obtain ⟨stage, calls, fits⟩ := consistent.known
  have reads := reads_run calls
  refine ⟨orderly_of_run calls, fun writer ok opened => ?_⟩
  obtain rfl : true = ok := reads.returned _ _ opened
  have has : stage.writer = some writer := (reads.writer writer).mpr opened
  rw [reads.released]
  split
  · rename_i gone
    rw [if_pos]
    by_contra live
    obtain ⟨php, is⟩ := Option.ne_none_iff_exists'.mp live
    have kept := (fits.php php is).released
    rw [gone.1] at kept
    cases kept
  · rename_i kept
    rw [if_neg]
    intro ended
    rcases fits.ended ended with absent | gone
    · rw [has] at absent
      cases absent
    · exact kept ⟨gone, has⟩

/-- A handler that returns a value or nothing. -/
def Handled.returns (retval : Option (Nat × Bool)) : Handled := ⟨.ok, "", none, retval⟩

/-- A handler that throws an exception with a message. -/
def Handled.throws (exception : Nat) (message : String) : Handled :=
  ⟨.exception, message, some exception, none⟩

/-- A handler that returns with an exit pending. -/
def Handled.exits (retval : Option (Nat × Bool)) : Handled :=
  ⟨.exit, "COPY aborted by exit()", none, retval⟩

/-- A sink opens a writer and fails to write; another one saw the session open before. -/
def failingSink : List Event :=
  [.globalInit, .sink 0, .sink 1, .exchange 0, .submit 0 5, .session (.enter 0), .session (.take 0),
    .work (.returns (some (9, true))) (.throws 3 "disk full"), .session (.finish 0),
    .session (.unwind 0 none), .session (.wake 0 6), .store 0]

/-- The other sink takes the flag before the first closes the session. -/
def overlappingSinks : List Event :=
  failingSink ++ [.exchange 1, .submit 1 7, .session (.take 0),
    .work (.returns none) (.returns none), .finish 0]

/-- PHP sees one writer, a write that succeeds and one that fails. -/
theorem overlappingSinks_calls :
    ((execution 3 60000000000).run (.start "csv" (some true)) overlappingSinks).map State.calls =
      some [.openWriter (some 9) true, .write 9 false, .write 9 true] := by
  decide +kernel

/-- An `open()` catches the error of a nested statement that an exit stopped, and returns a writer. -/
def openedExiting : List Event :=
  [.globalInit, .sink 0, .exchange 0, .onRequestThread 0,
    .workDirect 0 (.exits (some (9, true))) (.returns none), .store 0, .finish 0,
    .sessionEnd "COPY aborted by exit()" true false true]

/-- PHP sees `openWriter` return while the session ends, and no writer is kept. -/
theorem openedExiting_calls :
    ((execution 3 60000000000).run (.start "csv" (some true)) openedExiting).map
        (fun state => (state.phpState, state.calls)) =
      some (none, [.openWriter (some 9) false]) := by
  decide +kernel

/-- Two sinks that overlap write after a failed write, and the writer of an `open()` with an exit pending
is never released. -/
theorem writer_protocol_overlapping :
    (∃ state, (execution 3 60000000000).run (.start "csv" (some true)) overlappingSinks = some state ∧
      ¬Follows state) ∧
    ∃ state, (execution 3 60000000000).run (.start "csv" (some true)) openedExiting = some state ∧
      ¬Follows state := by
  refine ⟨?_, ?_⟩
  · obtain ⟨state, ran, calls⟩ := Option.map_eq_some_iff.mp overlappingSinks_calls
    refine ⟨state, ran, fun follows => ?_⟩
    have fine := follows.orderly.afterFailure [.openWriter (some 9) true, .write 9 false]
      (.write 9 true) [] calls rfl (.write 9 false) (by simp)
    cases fine
  · obtain ⟨state, ran, seen⟩ := Option.map_eq_some_iff.mp openedExiting_calls
    obtain ⟨ended, calls⟩ := Prod.mk.inj seen
    refine ⟨state, ran, fun follows => ?_⟩
    have once := follows.released 9 false (by simp [calls])
    rw [ended, calls] at once
    simp at once

/-- The failing sink closes the session first; the session aborts the writer and releases it. -/
def closedSinks : List Event :=
  failingSink ++ [.finish 0, .exchange 1, .submit 1 7, .session (.take 0), .store 1, .finish 1,
    .sessionEnd "COPY format 'csv' write(): disk full" true false true]

/-- PHP sees the writer aborted with the cause of the failed write, and released. -/
theorem closedSinks_calls :
    ((execution 3 60000000000).run (.start "csv" (some true)) closedSinks).map State.calls =
      some [.openWriter (some 9) true, .write 9 false,
        .abort 9 "COPY format 'csv' write(): disk full", .release 9] := by
  decide +kernel

/-- The writer of the failing sink is aborted and released. -/
theorem writer_protocol_closed : ∃ state,
    (execution 3 60000000000).run (.start "csv" (some true)) closedSinks = some state ∧
      Follows state ∧ .release 9 ∈ state.calls := by
  obtain ⟨state, ran, calls⟩ := Option.map_eq_some_iff.mp closedSinks_calls
  have settled : (execution 3 60000000000).checks Settled (.start "csv" (some true)) closedSinks =
      true := by
    decide +kernel
  exact ⟨state, ran, writer_protocol (Machine.along_of_checks settled) ran, by simp [calls]⟩

end PhpDuckdb.CopyWriter
