import Kennel.Runner.Signal
import Kennel.Json.RoundTrip

namespace Kennel
namespace Runner

open Python Sdk

/-!
# What the harness writes

Every line the harness prints is a frame: one of the six outbound tags, a colon, and
`json.dumps` of a payload of the kind that tag announces (`Outbound`).  `emit` is the only
statement that writes, so this is an invariant of the computations of `ModuleRunner`.

A run need not end: on input without a stop line the command loop turns for ever, and the model
then has no result for any fuel.  So the invariant is stated at every point of a run, not only
at its end.  Every method of the runner but `command_loop` returns, from every world, having
appended only frames (`Emits`), and `command_loop`'s `while True` is a sequence of such turns
(`Py.Turns`).  Whatever the fuel, a run has either ended, having written only frames, or made that
many turns of its command loop, having written only frames so far (`run_frames_read_back`).  This
holds for every plugin, every input, and the poll of a run with signals, which writes nothing
itself.
-/

/-- The payloads `ModuleRunner` encodes, each under its tag: the readiness announcement, the
report of a failed start, a `Response`, an event acknowledgement, a `HealthStatus`, and an
error message. -/
inductive Outbound : String → PyVal → Prop
  | ready (pluginId : PyStr) (info : ModuleInfo) : Outbound readyTag (readyInfo pluginId info)
  | failed (pluginId : PyStr) (e : PyExc) : Outbound pluginErrorTag (errorInfo pluginId e)
  | response (response : Response) : Outbound responseTag response.toDict
  | event (eventId success : PyVal) :
      Outbound eventResponseTag (.dict [(.lit "event_id", eventId), (.lit "success", success)])
  | health (health : HealthStatus) : Outbound healthResponseTag health.toDict
  | error (message : PyStr) : Outbound errorTag (.dict [(.lit "error", .str message)])

/-- A frame: a tag, a colon, and `json.dumps` of a payload the harness encodes under that tag. -/
def Framed (line : PyStr) : Prop :=
  ∃ tag payload body, Outbound tag payload ∧ Json.encode payload = .ok body ∧
    line = text tag ++ text ":" ++ body

/-! ## Output as an invariant of computations -/

variable {σ α β : Type} {good : PyStr → Prop}

/-- From `w` to `w'` standard output has only grown, by lines that satisfy `good`. -/
def Grows (good : PyStr → Prop) (w w' : World σ) : Prop :=
  ∃ written, w'.stdout = w.stdout ++ written ∧ ∀ line ∈ written, good line

namespace Grows

theorem of_stdout {w w' : World σ} (same : w'.stdout = w.stdout) : Grows good w w' :=
  ⟨[], by simp [same], nofun⟩

theorem trans {w w₁ w' : World σ} (first : Grows good w w₁) (second : Grows good w₁ w') :
    Grows good w w' := by
  obtain ⟨xs, grown, goodXs⟩ := first
  obtain ⟨ys, grown', goodYs⟩ := second
  exact ⟨xs ++ ys, by rw [grown', grown, List.append_assoc], fun line mem =>
    (List.mem_append.mp mem).elim (goodXs line) (goodYs line)⟩

theorem mono {good' : PyStr → Prop} {w w' : World σ} (grows : Grows good w w')
    (weaker : ∀ line, good line → good' line) : Grows good' w w' := by
  obtain ⟨written, grown, fine⟩ := grows
  exact ⟨written, grown, fun line mem => weaker line (fine line mem)⟩

end Grows

/-- `m`, from every world, returns or raises, having appended to standard output only lines
that satisfy `good`. -/
def Emits (good : PyStr → Prop) (m : Py σ α) : Prop :=
  ∀ w, ∃ outcome w', m w = some (outcome, w') ∧ Grows good w w'

/-- `m` appends to standard output only lines that satisfy `good`, whenever it has a result. -/
def WritesOnly (good : PyStr → Prop) (m : Py σ α) : Prop :=
  ∀ w outcome w', m w = some (outcome, w') → Grows good w w'

/-- `Turns body n w w'`: `n` turns of `while True: body`, each asking for another, lead from `w`
to `w'`.  These are the worlds `Py.loop` passes between two turns. -/
inductive Py.Turns (body : Py σ Bool) : Nat → World σ → World σ → Prop
  | zero (w : World σ) : Py.Turns body 0 w w
  | succ {n : Nat} {w w₁ w' : World σ} :
      body w = some (.ok true, w₁) → Py.Turns body n w₁ w' → Py.Turns body (n + 1) w w'

/-- A loop whose body always returns has no result within `fuel` only when it has made `fuel`
turns, each asking for another. -/
theorem Py.turns_of_loop_none {body : Py σ Bool} (returns : ∀ w, ∃ r, body w = some r) :
    ∀ {fuel : Nat} {w : World σ}, Py.loop body fuel w = none → ∃ w', Py.Turns body fuel w w'
  | 0, w, _ => ⟨w, .zero w⟩
  | fuel + 1, w, spins => by
    obtain ⟨⟨outcome, w₁⟩, runs⟩ := returns w
    rw [Py.loop_succ] at spins
    cases outcome with
    | error r =>
      rw [Py.bind_raised runs] at spins
      cases spins
    | ok again =>
      rw [Py.bind_ok runs] at spins
      split at spins
      · next going =>
        obtain ⟨w', turned⟩ := Py.turns_of_loop_none returns spins
        exact ⟨w', .succ (going ▸ runs) turned⟩
      · cases spins

namespace Emits

theorem of_stdout {m : Py σ α}
    (step : ∀ w, ∃ outcome w', m w = some (outcome, w') ∧ w'.stdout = w.stdout) : Emits good m :=
  fun w => by
    obtain ⟨outcome, w', runs, same⟩ := step w
    exact ⟨outcome, w', runs, .of_stdout same⟩

theorem pure (a : α) : Emits good (pure a : Py σ α) :=
  of_stdout fun w => ⟨_, w, rfl, rfl⟩

theorem throw (r : Raised) : Emits good (Py.throw r : Py σ α) :=
  of_stdout fun w => ⟨_, w, rfl, rfl⟩

theorem lift (x : Except PyExc α) : Emits good (Py.lift x : Py σ α) := by
  cases x
  exacts [throw _, pure _]

theorem read : Emits good (Py.read : Py σ (World σ)) :=
  of_stdout fun w => ⟨_, w, rfl, rfl⟩

theorem modify {f : World σ → World σ} (keeps : ∀ w, (f w).stdout = w.stdout) :
    Emits good (Py.modify f) :=
  of_stdout fun w => ⟨_, f w, rfl, keeps w⟩

theorem bind {m : Py σ α} {f : α → Py σ β} (first : Emits good m) (next : ∀ a, Emits good (f a)) :
    Emits good (m >>= f) := fun w => by
  obtain ⟨outcome, w₁, runs, grows⟩ := first w
  cases outcome with
  | ok a =>
    obtain ⟨outcome', w', runs', grows'⟩ := next a w₁
    exact ⟨outcome', w', by rw [Py.bind_ok runs, runs'], grows.trans grows'⟩
  | error r => exact ⟨.error r, w₁, Py.bind_raised runs, grows⟩

theorem tryCatch {body : Py σ α} {handler : Raised → Py σ α} (first : Emits good body)
    (handles : ∀ r, Emits good (handler r)) : Emits good (Py.tryCatch body handler) := fun w => by
  obtain ⟨outcome, w₁, runs, grows⟩ := first w
  unfold Py.tryCatch
  cases outcome with
  | ok a => exact ⟨.ok a, w₁, by rw [runs], grows⟩
  | error r =>
    obtain ⟨outcome', w', runs', grows'⟩ := handles r w₁
    exact ⟨outcome', w', by rw [runs]; exact runs', grows.trans grows'⟩

theorem tryExcept {body : Py σ α} {handler : PyExc → Py σ α} (first : Emits good body)
    (handles : ∀ e, Emits good (handler e)) : Emits good (Py.tryExcept body handler) :=
  tryCatch first fun r => by cases r <;> first | exact handles _ | exact throw _

theorem ite {c : Prop} [Decidable c] {a b : Py σ α} (yes : Emits good a) (no : Emits good b) :
    Emits good (if c then a else b) := by
  split <;> assumption

theorem writesOnly {m : Py σ α} (emits : Emits good m) : WritesOnly good m :=
  fun w outcome w' runs => by
    obtain ⟨outcome', w'', runs', grows⟩ := emits w
    obtain ⟨-, rfl⟩ := Prod.mk.inj (Option.some.inj (runs.symm.trans runs'))
    exact grows

/-- Turns of a body that emits only `good` lines append only `good` lines. -/
theorem turns {body : Py σ Bool} (turn : Emits good body) {n : Nat} {w w' : World σ}
    (turned : Py.Turns body n w w') : Grows good w w' := by
  induction turned with
  | zero w => exact .of_stdout rfl
  | succ runs _ ih => exact (turn.writesOnly _ _ _ runs).trans ih

/-! What it takes for a computation built on returning parts to have no result. -/

theorem none_of_bind {m : Py σ α} {f : α → Py σ β} {w : World σ} (first : Emits good m)
    (spins : (m >>= f) w = none) : ∃ a w₁, m w = some (.ok a, w₁) ∧ f a w₁ = none := by
  obtain ⟨outcome, w₁, runs, -⟩ := first w
  cases outcome with
  | ok a => exact ⟨a, w₁, runs, by rwa [Py.bind_ok runs] at spins⟩
  | error r =>
    rw [Py.bind_raised runs] at spins
    cases spins

theorem none_of_tryCatch {body : Py σ α} {handler : Raised → Py σ α} {w : World σ}
    (handles : ∀ r, Emits good (handler r)) (spins : Py.tryCatch body handler w = none) :
    body w = none := by
  unfold Py.tryCatch at spins
  rcases ran : body w with _ | ⟨r | _, w₁⟩
  · rfl
  · obtain ⟨_, _, runs, -⟩ := handles r w₁
    simp [ran, runs] at spins
  · simp [ran] at spins

theorem none_of_tryExcept {body : Py σ α} {handler : PyExc → Py σ α} {w : World σ}
    (handles : ∀ e, Emits good (handler e)) (spins : Py.tryExcept body handler w = none) :
    body w = none :=
  none_of_tryCatch (fun r => by cases r <;> first | exact handles _ | exact throw _) spins

theorem none_of_tryFinally {body : Py σ α} {cleanup : Py σ Unit} {w : World σ}
    (cleans : Emits good cleanup) (spins : Py.tryFinally body cleanup w = none) : body w = none := by
  unfold Py.tryFinally at spins
  rcases ran : body w with _ | ⟨outcome, w₁⟩
  · rfl
  · obtain ⟨_ | _, _, runs, -⟩ := cleans w₁ <;> simp [ran, runs] at spins

end Emits

namespace WritesOnly

theorem bind {m : Py σ α} {f : α → Py σ β} (first : Emits good m)
    (next : ∀ a, WritesOnly good (f a)) : WritesOnly good (m >>= f) := fun w outcome w' runs => by
  obtain ⟨outcome₁, w₁, ran, grows⟩ := first w
  cases outcome₁ with
  | ok a =>
    rw [Py.bind_ok ran] at runs
    exact grows.trans (next a w₁ outcome w' runs)
  | error r =>
    rw [Py.bind_raised ran] at runs
    obtain ⟨-, rfl⟩ := Prod.mk.inj (Option.some.inj runs)
    exact grows

theorem tryCatch {body : Py σ α} {handler : Raised → Py σ α} (first : WritesOnly good body)
    (handles : ∀ r, Emits good (handler r)) : WritesOnly good (Py.tryCatch body handler) :=
  fun w outcome w' runs => by
    unfold Py.tryCatch at runs
    split at runs
    · next r w₁ raised => exact (first w _ w₁ raised).trans ((handles r).writesOnly w₁ outcome w' runs)
    · exact first w outcome w' runs

theorem tryExcept {body : Py σ α} {handler : PyExc → Py σ α} (first : WritesOnly good body)
    (handles : ∀ e, Emits good (handler e)) : WritesOnly good (Py.tryExcept body handler) :=
  tryCatch first fun r => by cases r <;> first | exact handles _ | exact Emits.throw _

theorem tryFinally {body : Py σ α} {cleanup : Py σ Unit} (first : WritesOnly good body)
    (cleans : Emits good cleanup) : WritesOnly good (Py.tryFinally body cleanup) :=
  fun w outcome w' runs => by
    unfold Py.tryFinally at runs
    split at runs
    · cases runs
    · next outcome₁ w₁ ran =>
      have grows := first w outcome₁ w₁ ran
      split at runs <;> cases runs
      all_goals exact grows.trans (cleans.writesOnly _ _ _ ‹_›)

theorem loop {body : Py σ Bool} (turn : Emits good body) : ∀ fuel, WritesOnly good (Py.loop body fuel)
  | 0 => fun _ _ _ runs => by cases runs
  | fuel + 1 => bind turn fun again => by
      split
      exacts [loop turn fuel, (Emits.pure ()).writesOnly]

end WritesOnly

/-! ## The runner's methods -/

theorem write_emits {line : PyStr} (fine : good line) : Emits good (write line : Py σ Unit) :=
  fun _ => ⟨_, _, rfl, [line], rfl, by simpa using fine⟩

section

variable {poll : Py σ Unit} (quiet : Emits good poll)
include quiet

theorem callOp_emits (op : Op) (act : PyFloat → StateM σ (Except PyExc α)) :
    Emits good (callOp poll op act) :=
  .bind (.modify fun _ => rfl) fun _ => .bind quiet fun _ => .bind .read fun _ =>
    .bind (.modify fun _ => rfl) fun _ => .lift _

theorem log_emits (method : String) : Emits good (log poll method) :=
  .bind quiet fun _ => .lift _

theorem readline_emits : Emits good (readline poll) := by
  refine .bind quiet fun _ => .bind .read fun w => ?_
  split
  · exact .pure _
  · exact .bind (.modify fun _ => rfl) fun _ => .pure _
  · exact .bind (.modify fun _ => rfl) fun _ => .throw _

theorem loopFailed_emits (r : Raised) : Emits good (loopFailed poll r) := by
  cases r
  · exact .bind (log_emits quiet _) fun _ => log_emits quiet _
  · exact log_emits quiet _
  · exact .throw _

end

section

variable (plugin : Plugin σ) {poll : Py σ Unit} (quiet : Emits Framed poll)
include quiet

theorem emit_emits {tag : String} {payload : PyVal} (kind : Outbound tag payload) :
    Emits Framed (emit poll tag payload) := by
  unfold emit
  cases encodes : Json.encode payload with
  | error e =>
      rw [Py.lift_error, Py.throw_bind]
      exact .throw _
  | ok body =>
      rw [Py.lift_ok, Py.pure_bind]
      exact .bind quiet fun _ => write_emits ⟨tag, payload, body, kind, encodes, rfl⟩

theorem sendErrorResponse_emits (error : PyStr) : Emits Framed (sendErrorResponse poll error) :=
  .bind quiet fun _ => emit_emits quiet (.error _)

theorem commandFailed_emits (e : PyExc) : Emits Framed (commandFailed poll e) :=
  .bind (log_emits quiet _) fun _ => .bind (log_emits quiet _) fun _ => sendErrorResponse_emits quiet _

theorem handleCommand_emits (commandJson : PyStr) : Emits Framed (handleCommand plugin poll commandJson) := by
  have logs := log_emits quiet
  refine .tryExcept (.bind quiet fun _ => .bind (.lift _) fun _ => .bind (.lift _) fun _ =>
    .bind (.lift _) fun _ => .bind quiet fun _ => .ite ?_ (.ite ?_ (.ite ?_ (logs _))))
    (commandFailed_emits quiet)
  · exact .bind (.lift _) fun _ => .bind (logs _) fun _ => .bind (callOp_emits quiet _ _) fun _ =>
      .bind quiet fun _ => emit_emits quiet (.response _)
  · exact .bind (.bind .read fun _ => .lift _) fun _ => .bind (.lift _) fun _ =>
      .bind (logs _) fun _ => .bind (callOp_emits quiet _ _) fun _ =>
        .bind quiet fun _ => emit_emits quiet (.event _ _)
  · exact .bind (logs _) fun _ => .bind (callOp_emits quiet _ _) fun _ =>
      .bind quiet fun _ => emit_emits quiet (.health _)

/-- One turn of the command loop returns, having written only frames. -/
theorem commandStep_emits : Emits Framed (commandStep plugin poll) :=
  .bind (readline_emits quiet) fun _ => .bind quiet fun _ =>
    .ite (.pure _) (.ite (.bind (handleCommand_emits plugin quiet _) fun _ => .pure _)
      (.ite (.bind (log_emits quiet _) fun _ => .pure _) (.pure _)))

theorem stopModule_emits : Emits Framed (stopModule plugin poll) :=
  .bind (log_emits quiet _) fun _ => .tryExcept (callOp_emits quiet _ _) fun _ =>
    .bind (log_emits quiet _) fun _ => log_emits quiet _

theorem startModule_emits (pluginId configJson : PyStr) :
    Emits Framed (startModule plugin poll pluginId configJson) := by
  have logs := log_emits quiet
  exact .bind quiet fun _ => .bind (.lift _) fun _ => .bind (logs _) fun _ =>
    .bind (callOp_emits quiet _ _) fun _ => .bind (logs _) fun _ => .bind (callOp_emits quiet _ _) fun _ =>
      .bind quiet fun _ => .bind (callOp_emits quiet _ _) fun _ =>
        .bind (emit_emits quiet (.ready _ _)) fun _ => quiet

theorem runFailed_emits (pluginId : PyStr) (e : PyExc) : Emits Framed (runFailed poll pluginId e) :=
  .bind (log_emits quiet _) fun _ => .bind (log_emits quiet _) fun _ => .bind quiet fun _ =>
    .bind (emit_emits quiet (.failed _ _)) fun _ => .bind quiet fun _ => .throw _

theorem commandLoop_writesOnly (fuel : Nat) : WritesOnly Framed (commandLoop plugin poll fuel) :=
  .bind (log_emits quiet _) fun _ => .tryFinally (.tryCatch
    (.loop (commandStep_emits plugin quiet) fuel) (loopFailed_emits quiet)) (stopModule_emits plugin quiet)

theorem run_writesOnly (fuel : Nat) (pluginId configJson : PyStr) :
    WritesOnly Framed (run plugin poll fuel pluginId configJson) := by
  rw [run_eq_startModule]
  exact .tryExcept (.bind (startModule_emits plugin quiet _ _) fun _ => commandLoop_writesOnly plugin quiet fuel)
    (runFailed_emits quiet pluginId)

/-- A run with no result within `fuel` has started the module and made `fuel` turns of its
command loop: each method but the loop returns. -/
theorem run_turns_of_none (fuel : Nat) (pluginId configJson : PyStr) {w : World σ}
    (spins : run plugin poll fuel pluginId configJson w = none) :
    ∃ w₀, (startModule plugin poll pluginId configJson >>= fun _ => log poll "info") w = some (.ok (), w₀) ∧
      ∃ w', Py.Turns (commandStep plugin poll) fuel w₀ w' := by
  rw [run_eq_startModule] at spins
  obtain ⟨_, w₁, started, looping⟩ := (startModule_emits plugin quiet pluginId configJson).none_of_bind
    (Emits.none_of_tryExcept (runFailed_emits quiet pluginId) spins)
  obtain ⟨_, w₀, logged, turning⟩ := (log_emits quiet "info").none_of_bind looping
  have loops := Emits.none_of_tryCatch (loopFailed_emits quiet)
    (Emits.none_of_tryFinally (stopModule_emits plugin quiet) turning)
  have returns : ∀ w, ∃ r, commandStep plugin poll w = some r := fun w =>
    let ⟨_, _, runs, _⟩ := commandStep_emits plugin quiet w
    ⟨_, runs⟩
  exact ⟨w₀, by rw [Py.bind_ok started, logged], Py.turns_of_loop_none returns loops⟩

end

/-- The poll of a run with signals writes nothing, and returns: the handler logs, calls `stop`
and exits. -/
theorem interrupt_emits (plugin : Plugin σ) (good : PyStr → Prop) :
    ∀ depth, Emits good (interrupt plugin depth)
  | 0 => .pure _
  | depth + 1 => by
      have inner := interrupt_emits plugin good depth
      refine .bind .read fun w => ?_
      split
      · exact .pure _
      · exact .bind (.modify fun _ => rfl) fun _ => .ite (.bind (log_emits inner _) fun _ =>
          .bind (.tryExcept (callOp_emits inner _ _) fun _ => log_emits inner _) fun _ =>
            .bind inner fun _ => .throw _) (.pure _)

/-! ## The JSON texts of the frames -/

/-- The JSON text of a frame is printable ASCII, and reads back under RFC 8259 as every plain
payload `json.dumps` writes as it. -/
theorem Framed.readsBack {line : PyStr} (framed : Framed line) :
    ∃ tag payload body, Outbound tag payload ∧ Json.encode payload = .ok body ∧
      line = text tag ++ text ":" ++ body ∧ Json.printableAscii body = true ∧
      ∀ sent, Json.encode sent = .ok body → Json.plain sent = true → Json.rfc8259 body = .ok sent := by
  obtain ⟨tag, payload, body, kind, encodes, rfl⟩ := framed
  exact ⟨tag, payload, body, kind, encodes, rfl, Json.encode_printable payload encodes,
    fun _ encodes' isPlain => Json.decode_encode false isPlain encodes'⟩

/-- Whatever its fuel, a run, with or without signals, has either ended in `w'`, or has no
result yet and has made `fuel` turns of its command loop, reaching `w'`; in both cases every line
it has written by then is a frame `TAG:J`.  `J` is `json.dumps` of a payload the harness encodes
under `TAG`; it is printable ASCII, so it holds no line terminator; and under RFC 8259 it reads
back as every plain payload `json.dumps` writes as `J`, the one the harness encoded among them:
only finite floats, no tuples, distinct `str` keys, no surrogate pair split over two code
points. -/
theorem run_frames_read_back {σ : Type} (plugin : Plugin σ) (depth fuel : Nat)
    (pluginId configJson : PyStr) (w : World σ) :
    ∃ w', ((∃ outcome, run plugin (interrupt plugin depth) fuel pluginId configJson w = some (outcome, w')) ∨
        ∃ w₀, run plugin (interrupt plugin depth) fuel pluginId configJson w = none ∧
          (startModule plugin (interrupt plugin depth) pluginId configJson >>= fun _ =>
            log (interrupt plugin depth) "info") w = some (.ok (), w₀) ∧
          Py.Turns (commandStep plugin (interrupt plugin depth)) fuel w₀ w') ∧
      ∃ written, w'.stdout = w.stdout ++ written ∧ ∀ line ∈ written, ∃ tag payload body,
        Outbound tag payload ∧ Json.encode payload = .ok body ∧ line = text tag ++ text ":" ++ body ∧
        Json.printableAscii body = true ∧
        ∀ sent, Json.encode sent = .ok body → Json.plain sent = true → Json.rfc8259 body = .ok sent := by
  have quiet := interrupt_emits plugin Framed depth
  cases ran : run plugin (interrupt plugin depth) fuel pluginId configJson w with
  | some result =>
    obtain ⟨outcome, w'⟩ := result
    exact ⟨w', .inl ⟨outcome, rfl⟩,
      (run_writesOnly plugin quiet fuel pluginId configJson w _ _ ran).mono fun _ => Framed.readsBack⟩
  | none =>
    obtain ⟨w₀, entered, w', turned⟩ := run_turns_of_none plugin quiet fuel pluginId configJson ran
    have started := ((startModule_emits plugin quiet pluginId configJson).bind fun _ =>
      log_emits quiet "info").writesOnly w _ w₀ entered
    exact ⟨w', .inr ⟨w₀, rfl, entered, turned⟩,
      (started.trans ((commandStep_emits plugin quiet).turns turned)).mono fun _ => Framed.readsBack⟩

/-- Without a stop line the run never ends; after its second turn at the end of the input it
has written the readiness frame only, and that frame is covered. -/
theorem run_frames_read_back_at_end_of_input :
    let module := BaseModule.new (.lit "m") (.lit "m") (.lit "1.0.0") (.lit "") (.zero false)
    run BaseModule.plugin (interrupt BaseModule.plugin 0) 2 (text "m") (text "\x7b\x7d")
        (World.fresh module [] (.zero false)) = none ∧
      ∃ w', ((∃ outcome, run BaseModule.plugin (interrupt BaseModule.plugin 0) 2 (text "m") (text "\x7b\x7d")
            (World.fresh module [] (.zero false)) = some (outcome, w')) ∨
          ∃ w₀, run BaseModule.plugin (interrupt BaseModule.plugin 0) 2 (text "m") (text "\x7b\x7d")
              (World.fresh module [] (.zero false)) = none ∧
            (startModule BaseModule.plugin (interrupt BaseModule.plugin 0) (text "m") (text "\x7b\x7d") >>= fun _ =>
              log (interrupt BaseModule.plugin 0) "info") (World.fresh module [] (.zero false)) = some (.ok (), w₀) ∧
            Py.Turns (commandStep BaseModule.plugin (interrupt BaseModule.plugin 0)) 2 w₀ w') ∧
        ∃ written, w'.stdout = (World.fresh module [] (.zero false)).stdout ++ written ∧
          ∀ line ∈ written, ∃ tag payload body, Outbound tag payload ∧ Json.encode payload = .ok body ∧
            line = text tag ++ text ":" ++ body ∧ Json.printableAscii body = true ∧
            ∀ sent, Json.encode sent = .ok body → Json.plain sent = true → Json.rfc8259 body = .ok sent :=
  ⟨rfl, run_frames_read_back BaseModule.plugin 0 2 _ _ _⟩

set_option maxRecDepth 2000 in
/-- `json.loads` takes `NaN` for a number, and the response to a request echoes its `id`: the
frame's JSON text is then no RFC 8259 text. -/
theorem run_writes_nan_response :
    let module := BaseModule.new (.lit "m") (.lit "m") (.lit "1.0.0") (.lit "") (.zero false)
    let lines := [text "KENNEL_COMMAND:\x7b\"type\": \"request\", \"data\": \x7b\"id\": NaN\x7d\x7d", stopLine]
    let body := text ("\x7b\"id\": NaN, \"success\": false, \"data\": \x7b\x7d, \"metadata\": \x7b\x7d, " ++
      "\"error\": \x7b\"code\": \"not_implemented\", " ++
      "\"message\": \"\\u672a\\u5b9e\\u73b0\\u7684\\u64cd\\u4f5c: \"\x7d\x7d")
    (run BaseModule.plugin (interrupt BaseModule.plugin 0) 2 (text "m") (text "\x7b\x7d")
        (World.fresh module (lines.map .line) (.zero false))).map (fun run => run.2.stdout.getLast?) =
      some (some (text responseTag ++ text ":" ++ body)) ∧
      ∃ e, Json.rfc8259 body = .error e :=
  ⟨rfl, _, rfl⟩

end Runner
end Kennel
