import Viva.Proofs.Stream.Cancellation

/-! # What a cancelled stream comes to

A stream that its observer cancels comes to its cancellation. If somebody else cancels it while a
read is awaited, it depends on what the same request still brings: after some bytes the cancellation
is found, and so it is if nothing comes. But the end of the body and a read that fails are taken as
if nobody had cancelled the stream. `Consumption.cancelled_iff` says exactly when a stream comes to
its cancellation, and what it comes to otherwise.
-/

namespace Viva.Consumption

/-- What the request still brings in which somebody else cancels the stream, be it more than once. -/
def Arrival.overtaking (met : List Arrival) : List Arrival :=
  (met.dropWhile (· != .cancel)).dropWhile (· == .cancel)

/-- What a stream comes to if the request in which somebody else cancels it brings the last of the
    body: a read that fails, or nothing more, where the body comes to `ended`. -/
def Arrival.lastOf? (met : List Arrival) (ended : Option (Except Failure StreamOutcome)) :
    Option (Except Failure StreamOutcome) :=
  match overtaking met with
  | [] => ended
  | .failure text :: _ => some (.error (.network text))
  | _ => none

/-- What a body comes to, if nobody cancels the stream. -/
def undisturbedEnd (transport : Transport) (body : List Arrival) :
    Option (Except Failure StreamOutcome) :=
  (follow .recording transport id false {} [] body).1

/-- What the stream comes to that somebody else cancels in a request with the last of the body. -/
def lateEnd? (transport : Transport) (met : List Arrival) : Option (Except Failure StreamOutcome) :=
  Arrival.lastOf? met (undisturbedEnd transport (Arrival.undisturbed met))

/-! ## A stream that is cancelled already -/

theorem finish_ne_cancelled (c : Consumption) (transport : Transport) :
    c.finish transport ≠ .ok .cancelled := by
  cases transport with
  | eventSource => exact fun same => nomatch same
  | response =>
      simp only [finish]
      split <;> simp

section
variable {σ : Type} (observer : Observer σ) {s : σ}

/-- What every call of the observer keeps holds after the records of a read. -/
theorem takeFrames_keeps {P : σ → Prop} (keeps : ∀ s event, P s → P (observer.notify s event))
    (c : Consumption) (frames : List Frame) (holds : P s) :
    P (takeFrames observer c s frames).2 := by
  induction frames generalizing c s with
  | nil => exact holds
  | cons frame rest ih =>
      unfold takeFrames
      split
      · exact holds
      · split
        · exact ih c holds
        · exact ih c holds
        · exact holds
        · apply ih
          apply keeps
          exact holds

/-- A read after which the stream is over has found it cancelled, or has failed without that. -/
theorem over_takeFrames {c : Consumption} {frames : List Frame} {s' : σ}
    {result : Except Failure StreamOutcome}
    (taken : takeFrames observer c s frames = (.over result, s')) :
    result = .ok .cancelled ↔ observer.isCancelled s' = true := by
  induction frames generalizing c s with
  | nil => cases taken
  | cons frame rest ih =>
      unfold takeFrames at taken
      split at taken
      · rename_i cancelled
        cases taken
        exact iff_of_true rfl cancelled
      · rename_i live
        split at taken
        · exact ih taken
        · exact ih taken
        · cases taken
          exact iff_of_false nofun live
        · exact ih taken

variable (transport : Transport) {cancel : σ → σ}

/-- The cancellation is found before another read is asked for. -/
theorem follow_at_once (cancelled : observer.isCancelled s = true) (c : Consumption)
    (rest : List Arrival) :
    follow observer transport cancel false c s rest = (some (.ok .cancelled), s) := by
  cases rest <;> simp only [follow, cancelled, Bool.not_false, Bool.and_true, if_true]

theorem goOn_at_once (cancelled : observer.isCancelled s = true) {progress : Progress}
    (found : ∀ result, progress = .over result → result = .ok .cancelled) (rest : List Arrival) :
    goOn observer transport cancel rest (progress, s) = (some (.ok .cancelled), s) := by
  cases progress with
  | «open» c => exact follow_at_once observer transport cancelled c rest
  | «over» result =>
      obtain rfl := found result rfl
      rfl

/-- What is left of the request in which the stream was cancelled. -/
theorem follow_asking (idle : cancel s = s) (cancelled : observer.isCancelled s = true)
    (c : Consumption) (rest : List Arrival) :
    follow observer transport cancel true c s rest =
      (match rest.dropWhile (· == .cancel) with
        | [] => some (c.finish transport)
        | .failure text :: _ => some (.error (.network text))
        | _ => some (.ok .cancelled), s) := by
  induction rest with
  | nil => rfl
  | cons arrival rest ih =>
      cases arrival with
      | cancel =>
          have again : follow observer transport cancel true c s (.cancel :: rest) =
              follow observer transport cancel true c (cancel s) rest := rfl
          rw [again, idle, ih]
          rfl
      | failure text => rfl
      | silence => simp only [follow, cancelled, Bool.not_true, Bool.false_and, if_true]; rfl
      | bytes bytes =>
          have unheard := takeFrames_of_cancelled observer cancelled
            { c with reader := (c.reader.feed bytes).2 } (c.reader.feed bytes).1
          have asked : follow observer transport cancel true c s (.bytes bytes :: rest) =
              goOn observer transport cancel rest (takeBytes observer c s bytes) := rfl
          rw [asked]
          cases taken : takeBytes observer c s bytes with
          | mk progress s' =>
              obtain rfl : s' = s := (congrArg Prod.snd taken).symm.trans unheard
              refine goOn_at_once observer transport cancelled ?_ rest
              rintro result rfl
              exact (over_takeFrames observer taken).mpr cancelled

end

/-! ## How a stream ends -/

section
variable (cancels : List Event → Bool)

/-- How a stream ends that is over, or waits for ever: nobody has cancelled it, its observer has, or
    somebody else. -/
inductive Ends (late : Option (Except Failure StreamOutcome)) :
    Option (Except Failure StreamOutcome) × Watch → Prop where
  | alone {outcome : Option (Except Failure StreamOutcome)} {w : Watch}
      (live : w.cancelled = false) (other : outcome ≠ some (.ok .cancelled)) :
      Ends late (outcome, w)
  | stopped {w : Watch} (cancelled : w.cancelled = true) (stops : cancels w.seen = true) :
      Ends late (some (.ok .cancelled), w)
  | interrupted {w : Watch} (cancelled : w.cancelled = true) (awake : cancels w.seen = false)
      (other : late ≠ some (.ok .cancelled)) : Ends late (late.or (some (.ok .cancelled)), w)

variable {w : Watch}

/-- While the stream is not cancelled, its observer would not cancel it for what it has seen. -/
theorem awake_takeFrames (awake : cancels w.seen = true → w.cancelled = true) (c : Consumption)
    (frames : List Frame) :
    let watch := (takeFrames (.watching cancels) c w frames).2
    cancels watch.seen = true → watch.cancelled = true := by
  have keeps : ∀ (w : Watch) (event : Event), (cancels w.seen = true → w.cancelled = true) →
      cancels (w.hear cancels event).seen = true → (w.hear cancels event).cancelled = true := by
    intro w event _ stops
    exact (congrArg (w.cancelled || ·) stops).trans (Bool.or_true _)
  exact takeFrames_keeps (.watching cancels) keeps c frames awake

theorem follow_ends (live : w.cancelled = false) (awake : cancels w.seen = false)
    (transport : Transport) (asking : Bool) (c : Consumption) (met : List Arrival) :
    Ends cancels
      (Arrival.lastOf? met
        (follow .recording transport id asking c w.seen (Arrival.undisturbed met)).1)
      (follow (.watching cancels) transport Watch.cancel asking c w met) := by
  induction met generalizing asking c w with
  | nil =>
      rw [follow_nil (.watching cancels) transport live]
      refine .alone live fun same => finish_ne_cancelled c transport ?_
      exact Option.some.inj same
  | cons arrival rest ih =>
      have here (other : arrival ≠ .cancel) :
          Arrival.undisturbed (arrival :: rest) = arrival :: Arrival.undisturbed rest :=
        List.takeWhile_cons_of_pos (bne_iff_ne.mpr other)
      have later (other : arrival ≠ .cancel) :
          Arrival.overtaking (arrival :: rest) = Arrival.overtaking rest := by
        have passed : (arrival != .cancel) = true := bne_iff_ne.mpr other
        simp only [Arrival.overtaking, List.dropWhile_cons, passed, if_true]
      rw [follow_cons (.watching cancels) transport live]
      cases arrival with
      | failure text => exact .alone live nofun
      | silence => exact .alone live nofun
      | cancel =>
          have cancelled : w.cancel.cancelled = true := rfl
          have asked := follow_asking (.watching cancels) transport
            (Watch.cancel_of_cancelled cancelled) cancelled c rest
          have behind : Arrival.overtaking (.cancel :: rest) = rest.dropWhile (· == .cancel) := rfl
          have ended : (follow .recording transport id asking c w.seen
              (Arrival.undisturbed (.cancel :: rest))).1 = some (c.finish transport) :=
            congrArg Prod.fst (follow_nil .recording transport rfl asking c)
          rw [ended, Arrival.lastOf?, behind]
          simp only [asked]
          -- What the stream comes to is the last of the body, if the request brings that.
          cases rest.dropWhile (· == .cancel) with
          | nil =>
              refine .interrupted cancelled awake fun same => finish_ne_cancelled c transport ?_
              exact Option.some.inj same
          | cons arrival more => cases arrival <;> exact .interrupted cancelled awake nofun
      | bytes bytes =>
          rw [here nofun, follow_cons .recording transport rfl, Arrival.lastOf?, later nofun]
          have stillAwake := awake_takeFrames cancels
            (fun stops => by cases awake.symm.trans stops)
            { c with reader := (c.reader.feed bytes).2 } (c.reader.feed bytes).1
          rcases takeBytes_watching cancels live c bytes with
            ⟨progress, told, taken⟩ | ⟨progress, w', taken, cancelled, -, -, stops⟩
          · have unstopped : cancels (w.seen ++
                (Transcript.ofFrames (c.reader.feed bytes).1).events) = false := by
              rw [Bool.eq_false_iff]
              intro stops
              have watched := congrArg Prod.snd taken
              rw [takeBytes] at watched
              simp only [watched] at stillAwake
              cases live.symm.trans (stillAwake stops)
            simp only [told, taken]
            cases progress with
            | «open» c' =>
                exact ih (w := { w with seen := w.seen ++ _ }) live unstopped false c'
            | «over» result =>
                refine .alone live fun same => ?_
                have found := (over_takeFrames (.watching cancels) taken).mp (Option.some.inj same)
                cases live.symm.trans found
          · have found : goOn (.watching cancels) transport Watch.cancel rest (progress, w') =
                (some (.ok .cancelled), w') := by
              refine goOn_at_once _ transport cancelled ?_ rest
              rintro result rfl
              exact (over_takeFrames (.watching cancels) taken).mpr cancelled
            simp only [taken, found]
            exact .stopped cancelled stops

/-- A stream comes to its cancellation exactly if it is cancelled when it ends and, where somebody
    else has cancelled it, the request in which that happened did not bring the last of the body.
    Otherwise it comes to what the last of the body makes of it, as if nobody had cancelled it. -/
theorem cancelled_iff (transport : Transport) (met : List Arrival) :
    let ended := follow (.watching cancels) transport Watch.cancel false {} (.start cancels) met
    let watch := ended.2
    (ended.1 = some (.ok .cancelled) ↔ watch.cancelled = true ∧
      (cancels watch.seen = true ∨ lateEnd? transport met = none)) ∧
      ∀ late, watch.cancelled = true → cancels watch.seen = false →
        lateEnd? transport met = some late → ended.1 = some late := by
  intro ended watch
  have ends : Ends cancels (lateEnd? transport met) ended := by
    cases before : cancels [] with
    | true =>
        have cancelled : (Observer.watching cancels).isCancelled (.start cancels) = true := before
        have found : ended = (some (.ok .cancelled), .start cancels) :=
          follow_at_once _ transport cancelled {} met
        rw [found]
        exact .stopped before before
    | false => exact follow_ends cancels (w := .start cancels) before before transport false {} met
  clear_value ended
  subst watch
  cases ends with
  | alone live other => simp [live, other]
  | stopped cancelled stops => simp [cancelled, stops]
  | interrupted cancelled awake other =>
      generalize lateEnd? transport met = late at other
      cases late with
      | none => simp [cancelled]
      | some late => simpa [cancelled, awake] using fun same => other (congrArg some same)

end

/-- A token, and a cancellation by somebody else in the request behind it. The stream comes to its
    cancellation if the request brings another token, and to the failure if it brings that. -/
theorem cancelled_or_failed :
    let token := Text.Utf8.encode "event: token\ndata: \x7b\"content\":\"a\"\x7d\n\n"
    let ended (met : List Arrival) :=
      follow (.watching fun _ => false) .response Watch.cancel false {} (.start fun _ => false) met
    let further : List Arrival := [.bytes token, .cancel, .bytes token]
    let failing : List Arrival := [.bytes token, .cancel, .failure "reset"]
    (ended further).2.cancelled = true ∧ lateEnd? .response further = none ∧
      (ended further).1 = some (.ok .cancelled) ∧
      (ended failing).2.cancelled = true ∧
      lateEnd? .response failing = some (.error (.network "reset")) ∧
      (ended failing).1 = some (.error (.network "reset")) := by
  intro token ended further failing
  have cancelled : (ended further).2.cancelled = true := by decide +kernel
  have nothing : lateEnd? .response further = none := by decide +kernel
  have interrupted : (ended failing).2.cancelled = true := by decide +kernel
  have last : lateEnd? .response failing = some (.error (.network "reset")) := by decide +kernel
  refine ⟨cancelled, nothing, ?_, interrupted, last, ?_⟩
  · apply (cancelled_iff (fun _ => false) .response further).1.mpr
    exact ⟨cancelled, .inr nothing⟩
  · exact (cancelled_iff (fun _ => false) .response failing).2 _ interrupted rfl last

/-- An event stream that somebody else cancels while it waits for the end of the body is cancelled
    when it returns, and it returns that it is complete. -/
theorem complete_though_cancelled :
    let token := Text.Utf8.encode "event: token\ndata: \x7b\"content\":\"a\"\x7d\n\n"
    let ended := follow (.watching fun _ => false) .eventSource Watch.cancel false {}
      (.start fun _ => false) [.bytes token, .cancel]
    ended.2.cancelled = true ∧ ended.2.seen = [.token "a"] ∧
      ended.1 = some (.ok (.completed none 1)) ∧ ended.1 ≠ some (.ok .cancelled) := by
  decide +kernel

end Viva.Consumption
