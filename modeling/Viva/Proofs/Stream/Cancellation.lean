import Mathlib.Data.List.Infix
import Viva.Proofs.Stream.Transcript

/-! # What a cancelled stream reports

A stream is cancelled before anything is asked for, by its observer in one of the calls, or by
somebody else while a read is awaited, which may come all the same. The observer here writes down
what it is told and what of that comes too late, and cancels the stream when it likes.
`Consumption.quiet_once_cancelled` says that nothing comes too late, and that nothing else is lost:
what the observer is told is the beginning of what the same body tells an observer that nobody
stops, up to the cancellation.
-/

namespace Viva.Consumption

/-- What an observer was told. What it makes of that is its own affair, so nothing else is kept. -/
structure Watch where
  /-- The stream is cancelled. -/
  cancelled : Bool := false
  /-- All events it was told of, in their order. -/
  seen : List Event := []
  /-- The events among them that came when the stream was cancelled already. -/
  late : List Event := []
  deriving Repr, DecidableEq

namespace Watch

/-- The observer is told of an event, and may cancel the stream when it has seen it. -/
def hear (cancels : List Event → Bool) (w : Watch) (event : Event) : Watch where
  cancelled := w.cancelled || cancels (w.seen ++ [event])
  seen := w.seen ++ [event]
  late := if w.cancelled then w.late ++ [event] else w.late

/-- Somebody else cancels the stream. -/
def cancel (w : Watch) : Watch :=
  { w with cancelled := true }

/-- Before the first event. The stream may be cancelled already. -/
def start (cancels : List Event → Bool) : Watch :=
  { cancelled := cancels [] }

/-- The observer was told of these events, or only of the first of them, and then it has cancelled
    the stream itself. -/
structure Reaches (w : Watch) (cancels : List Event → Bool) (events : List Event) : Prop where
  seen : w.seen <+: events
  stopped : ∀ event, w.seen ++ [event] <+: events → cancels w.seen = true

end Watch

/-- An observer that cancels the stream as soon as what it has seen is such that `cancels` says so. -/
def Observer.watching (cancels : List Event → Bool) : Observer Watch :=
  ⟨Watch.hear cancels, Watch.cancelled⟩

/-- An observer that writes down what it is told, and is told all of it. -/
def Observer.recording : Observer (List Event) :=
  .steady fun seen event => seen ++ [event]

/-- The events of a body, if nobody cancels the stream. -/
def reported (transport : Transport) (body : List Arrival) : List Event :=
  (follow .recording transport id false {} [] body).2

/-- What is met with before somebody else cancels the stream. -/
def Arrival.undisturbed (arrivals : List Arrival) : List Arrival :=
  arrivals.takeWhile (· != .cancel)

/-! ## Steps of a stream -/

section
variable {σ : Type} (observer : Observer σ) (transport : Transport) (cancel : σ → σ)

/-- How a stream goes on after a read, if it does. -/
def goOn (rest : List Arrival) : Progress × σ → Option (Except Failure StreamOutcome) × σ
  | (.open c, s) => follow observer transport cancel false c s rest
  | (.over result, s) => (some result, s)

variable {cancel} {s : σ}

theorem follow_nil (live : observer.isCancelled s = false) (asking : Bool) (c : Consumption) :
    follow observer transport cancel asking c s [] = (some (c.finish transport), s) := by
  simp only [follow, live, Bool.and_false, Bool.false_eq_true, if_false]

/-- What a stream that is not cancelled makes of the next arrival. -/
theorem follow_cons (live : observer.isCancelled s = false) (asking : Bool) (c : Consumption)
    (arrival : Arrival) (rest : List Arrival) :
    follow observer transport cancel asking c s (arrival :: rest) =
      match arrival with
      | .bytes bytes => goOn observer transport cancel rest (takeBytes observer c s bytes)
      | .failure text => (some (.error (.network text)), s)
      | .cancel => follow observer transport cancel true c (cancel s) rest
      | .silence => (none, s) := by
  simp only [follow, live, Bool.and_false, Bool.false_eq_true, if_false]
  cases arrival <;> rfl

theorem takeFrames_of_cancelled (cancelled : observer.isCancelled s = true) (c : Consumption)
    (frames : List Frame) : (takeFrames observer c s frames).2 = s := by
  cases frames with
  | nil => rfl
  | cons frame rest => simp only [takeFrames, cancelled, if_true]

/-- Nobody is told of anything any more. -/
theorem follow_of_cancelled (idle : cancel s = s) (cancelled : observer.isCancelled s = true)
    (asking : Bool) (c : Consumption) (arrivals : List Arrival) :
    (follow observer transport cancel asking c s arrivals).2 = s := by
  induction arrivals generalizing asking c with
  | nil =>
      simp only [follow]
      split <;> rfl
  | cons arrival rest ih =>
      simp only [follow]
      split
      · rfl
      · cases arrival with
        | bytes bytes =>
            obtain ⟨progress, unheard⟩ : ∃ progress, takeBytes observer c s bytes = (progress, s) :=
              ⟨_, Prod.ext rfl (takeFrames_of_cancelled observer cancelled _ _)⟩
            simp only [unheard]
            cases progress with
            | «open» c' => exact ih false c'
            | «over» result => rfl
        | failure | silence => rfl
        | cancel =>
            simp only [idle]
            exact ih true c

theorem goOn_of_cancelled (idle : cancel s = s) (cancelled : observer.isCancelled s = true)
    (rest : List Arrival) (progress : Progress) :
    (goOn observer transport cancel rest (progress, s)).2 = s := by
  cases progress with
  | «open» c => exact follow_of_cancelled observer transport idle cancelled false c rest
  | «over» result => rfl

end

/-! ## A stream that nobody cancels -/

theorem foldl_concat (seen events : List Event) :
    events.foldl (fun seen event => seen ++ [event]) seen = seen ++ events := by
  simp [← List.flatMap_def]

/-- One read. -/
theorem takeBytes_recording (c : Consumption) (seen : List Event) (bytes : List UInt8) :
    ∃ progress, takeBytes .recording c seen bytes =
      (progress, seen ++ (Transcript.ofFrames (c.reader.feed bytes).1).events) := by
  refine ⟨_, (takeFrames_steady _ _ seen _).trans (congrArg (Prod.mk _) ?_)⟩
  exact foldl_concat seen _

/-- What was written down before is still there. -/
theorem seen_prefix_follow (transport : Transport) (asking : Bool) (c : Consumption)
    (seen : List Event) (body : List Arrival) :
    seen <+: (follow .recording transport id asking c seen body).2 := by
  induction body generalizing asking c seen with
  | nil =>
      rw [follow_nil .recording transport rfl]
  | cons arrival rest ih =>
      rw [follow_cons .recording transport rfl]
      cases arrival with
      | bytes bytes =>
          obtain ⟨progress, taken⟩ := takeBytes_recording c seen bytes
          have kept := List.prefix_append seen (Transcript.ofFrames (c.reader.feed bytes).1).events
          simp only [taken]
          cases progress with
          | «open» c' => exact kept.trans (ih false c' _)
          | «over» result => exact kept
      | failure | silence => exact List.prefix_refl seen
      | cancel => exact ih true c seen

theorem seen_prefix_goOn (transport : Transport) (rest : List Arrival) (progress : Progress)
    (seen : List Event) : seen <+: (goOn .recording transport id rest (progress, seen)).2 := by
  cases progress with
  | «open» c => exact seen_prefix_follow transport false c seen rest
  | «over» result => exact List.prefix_refl seen

/-- The beginning of a body tells the beginning of what the body tells. -/
theorem prefix_follow_append (transport : Transport) (asking : Bool) (c : Consumption)
    (seen : List Event) (first rest : List Arrival) :
    (follow .recording transport id asking c seen first).2 <+:
      (follow .recording transport id asking c seen (first ++ rest)).2 := by
  induction first generalizing asking c seen with
  | nil =>
      rw [follow_nil .recording transport rfl]
      exact seen_prefix_follow transport asking c seen rest
  | cons arrival first ih =>
      rw [List.cons_append, follow_cons .recording transport rfl,
        follow_cons .recording transport rfl]
      cases arrival with
      | bytes bytes =>
          cases taken : takeBytes .recording c seen bytes with
          | mk progress seen' =>
              simp only [taken]
              cases progress with
              | «open» c' => exact ih false c' seen'
              | «over» result => exact List.prefix_refl seen'
      | failure | silence => exact List.prefix_refl seen
      | cancel => exact ih true c seen

/-! ## An observer that cancels -/

namespace Watch

section
variable {cancels : List Event → Bool} {w : Watch} {events : List Event}

theorem cancel_of_cancelled (cancelled : w.cancelled = true) : w.cancel = w := by
  obtain ⟨_, seen, late⟩ := w
  obtain rfl : _ = true := cancelled
  rfl

theorem hear_of_live (live : w.cancelled = false) (event : Event) :
    w.hear cancels event =
      { w with cancelled := cancels (w.seen ++ [event]), seen := w.seen ++ [event] } := by
  simp only [hear, live, Bool.false_or, Bool.false_eq_true, if_false]

theorem Reaches.all (seen : w.seen = events) : w.Reaches cancels events where
  seen := seen ▸ List.prefix_refl w.seen
  stopped := by
    intro event more
    have longer := more.length_le
    rw [← seen, List.length_append, List.length_singleton] at longer
    exact absurd longer (Nat.not_succ_le_self _)

theorem Reaches.of_cancels (seen : w.seen <+: events) (stops : cancels w.seen = true) :
    w.Reaches cancels events :=
  ⟨seen, fun _ _ => stops⟩

end

end Watch

section
variable (cancels : List Event → Bool) {w : Watch}

/-- The records of one read, when the stream is not cancelled before: either the observer is told of
    all their events, as one that nobody stops would be, or it cancels the stream in one of the calls
    and hears no more. -/
theorem takeFrames_watching (live : w.cancelled = false) (c : Consumption) (frames : List Frame) :
    let events := (Transcript.ofFrames frames).events
    let taken := takeFrames (.watching cancels) c w frames
    taken = ((takeFrames .recording c w.seen frames).1, { w with seen := w.seen ++ events }) ∨
      taken.2.cancelled = true ∧ taken.2.late = w.late ∧ taken.2.seen <+: w.seen ++ events ∧
        cancels taken.2.seen = true := by
  induction frames generalizing c w with
  | nil =>
      left
      simp [takeFrames, Transcript.ofFrames]
  | cons frame rest ih =>
      have watched : (Observer.watching cancels).isCancelled w = false := live
      have recorded : Observer.recording.isCancelled w.seen = false := rfl
      intro events taken
      cases known : Event.ofFrame? frame with
      | none =>
          simp only [events, taken, takeFrames_dropped watched c rest known,
            takeFrames_dropped recorded c rest known, Transcript.ofFrames_dropped rest known]
          exact ih live c
      | some event =>
          cases error : event.serverFailure? with
          | some failure =>
              left
              simp only [events, taken, takeFrames_failure watched c rest known error,
                takeFrames_failure recorded c rest known error,
                Transcript.ofFrames_failure rest known error, List.append_nil]
          | none =>
              have heard := takeFrames_event watched c rest known error
              have told := takeFrames_event recorded c rest known error
              have all : w.seen ++ events =
                  (w.seen ++ [event]) ++ (Transcript.ofFrames rest).events := by
                simp only [events, Transcript.ofFrames_event rest known error,
                  List.append_assoc, List.singleton_append]
              cases stops : cancels (w.seen ++ [event]) with
              | true =>
                  -- The observer cancels in this call, so the records behind it are not reported.
                  have stopped :
                      (Observer.watching cancels).isCancelled (w.hear cancels event) = true := by
                    rw [Watch.hear_of_live live]
                    exact stops
                  have last : taken.2 = w.hear cancels event := by
                    simp only [taken, heard]
                    exact takeFrames_of_cancelled (.watching cancels) stopped _ _
                  right
                  rw [last, all, Watch.hear_of_live live]
                  exact ⟨stops, rfl, List.prefix_append _ _, stops⟩
              | false =>
                  have next : taken = takeFrames (.watching cancels) (c.note event)
                      { w with cancelled := false, seen := w.seen ++ [event] } rest := by
                    rw [← stops, ← Watch.hear_of_live live]
                    exact heard
                  have goesOn := ih (w := { w with cancelled := false, seen := w.seen ++ [event] })
                    rfl (c.note event)
                  rw [next, told, all, live]
                  exact goesOn

/-- The same of one read. -/
theorem takeBytes_watching (live : w.cancelled = false) (c : Consumption) (bytes : List UInt8) :
    let all := w.seen ++ (Transcript.ofFrames (c.reader.feed bytes).1).events
    (∃ progress, takeBytes .recording c w.seen bytes = (progress, all) ∧
      takeBytes (.watching cancels) c w bytes = (progress, { w with seen := all })) ∨
    ∃ progress w', takeBytes (.watching cancels) c w bytes = (progress, w') ∧
      w'.cancelled = true ∧ w'.late = w.late ∧ w'.seen <+: all ∧ cancels w'.seen = true := by
  intro all
  rcases takeFrames_watching cancels live { c with reader := (c.reader.feed bytes).2 }
    (c.reader.feed bytes).1 with goes | stops
  · left
    obtain ⟨progress, told⟩ := takeBytes_recording c w.seen bytes
    exact ⟨progress, told, goes.trans (congrArg (Prod.mk · _) (congrArg Prod.fst told))⟩
  · exact .inr ⟨_, _, rfl, stops⟩

/-- The induction behind `quiet_once_cancelled`: an observer that has not cancelled the stream yet and
    one that nobody stops go on from the same events. -/
theorem follow_watching (live : w.cancelled = false) (transport : Transport) (asking : Bool)
    (c : Consumption) (met : List Arrival) :
    let watch := (follow (.watching cancels) transport Watch.cancel asking c w met).2
    watch.late = w.late ∧ watch.Reaches cancels
      (follow .recording transport id asking c w.seen (Arrival.undisturbed met)).2 := by
  induction met generalizing asking c w with
  | nil =>
      rw [follow_nil (.watching cancels) transport live, Arrival.undisturbed,
        List.takeWhile_nil, follow_nil .recording transport rfl]
      exact ⟨rfl, .all rfl⟩
  | cons arrival rest ih =>
      have here (other : arrival ≠ .cancel) :
          Arrival.undisturbed (arrival :: rest) = arrival :: Arrival.undisturbed rest :=
        List.takeWhile_cons_of_pos (bne_iff_ne.mpr other)
      rw [follow_cons (.watching cancels) transport live]
      cases arrival with
      | cancel =>
          have nothing : Arrival.undisturbed (.cancel :: rest) = [] := rfl
          have cancelled : w.cancel.cancelled = true := rfl
          have stays := follow_of_cancelled (.watching cancels) transport
            (Watch.cancel_of_cancelled cancelled) cancelled true c rest
          rw [nothing, follow_nil .recording transport rfl]
          simp only [stays]
          exact ⟨rfl, .all rfl⟩
      | failure | silence =>
          rw [here nofun, follow_cons .recording transport rfl]
          exact ⟨rfl, .all rfl⟩
      | bytes bytes =>
          rw [here nofun, follow_cons .recording transport rfl]
          rcases takeBytes_watching cancels live c bytes with
            ⟨progress, told, taken⟩ | ⟨progress, w', taken, cancelled, late, seen, stops⟩
          · simp only [told, taken]
            cases progress with
            | «open» c' => exact ih (w := { w with seen := w.seen ++ _ }) live false c'
            | «over» result => exact ⟨rfl, .all rfl⟩
          · -- The observer has cancelled the stream in this read, and hears of no other.
            have stays := goOn_of_cancelled (.watching cancels) transport
              (Watch.cancel_of_cancelled cancelled) cancelled rest progress
            obtain ⟨progress', told⟩ := takeBytes_recording c w.seen bytes
            simp only [told, taken, stays]
            exact ⟨late, .of_cancels (seen.trans (seen_prefix_goOn transport _ progress' _)) stops⟩

end

/-- A cancelled stream reports nothing more. It may have been cancelled before it was asked for
    anything, by the observer in any of its calls, or by somebody else while a read was awaited, and
    whatever comes then makes no difference: no call comes after the cancellation, and the events
    that were reported are the beginning of those of the same body if nobody cancels it. An event
    that came before somebody else cancelled the stream is only missing because the observer had
    cancelled it. -/
theorem quiet_once_cancelled (cancels : List Event → Bool) (transport : Transport)
    {met body : List Arrival} (same : Arrival.undisturbed met <+: body) :
    let watch := (follow (.watching cancels) transport Watch.cancel false {} (.start cancels) met).2
    watch.late = [] ∧ watch.seen <+: reported transport body ∧
      ∀ event, watch.seen ++ [event] <+: reported transport (Arrival.undisturbed met) →
        cancels watch.seen = true := by
  intro watch
  obtain ⟨rest, rfl⟩ := same
  obtain ⟨late, reaches⟩ : watch.late = [] ∧
      watch.Reaches cancels (reported transport (Arrival.undisturbed met)) := by
    cases before : cancels [] with
    | true =>
        have cancelled : (Watch.start cancels).cancelled = true := before
        have stays : watch = .start cancels :=
          follow_of_cancelled (.watching cancels) transport
            (Watch.cancel_of_cancelled cancelled) cancelled false {} met
        rw [stays]
        exact ⟨rfl, .of_cancels List.nil_prefix before⟩
    | false => exact follow_watching cancels before transport false {} met
  have beginning := prefix_follow_append transport false {} [] (Arrival.undisturbed met) rest
  exact ⟨late, reaches.seen.trans beginning, reaches.stopped⟩

/-- Two tokens in one read and a third in the next, for which the stream waits when it is cancelled
    by somebody else; the read comes all the same. An observer that cancels the stream in the call
    for the first token is told of that token, and one that does not cancel it of the first two. -/
theorem quiet_between_reads :
    let two := Text.Utf8.encode ("event: token\ndata: \x7b\"content\":\"a\"\x7d\n\n" ++
      "event: token\ndata: \x7b\"content\":\"b\"\x7d\n\n")
    let third := Text.Utf8.encode "event: token\ndata: \x7b\"content\":\"c\"\x7d\n\n"
    let body : List Arrival := [.bytes two, .bytes third]
    let met : List Arrival := [.bytes two, .cancel, .bytes third]
    let watch (n : Nat) := (follow (.watching fun seen => seen.length == n) .eventSource
      Watch.cancel false {} (.start fun seen => seen.length == n) met).2
    Arrival.undisturbed met <+: body ∧
      reported .eventSource body = [.token "a", .token "b", .token "c"] ∧
      (watch 1).late = [] ∧ (watch 1).seen = [.token "a"] ∧
      (watch 4).late = [] ∧ (watch 4).seen = [.token "a", .token "b"] := by
  intro two third body met watch
  have same : Arrival.undisturbed met <+: body := ⟨[.bytes third], rfl⟩
  have quiet (n : Nat) := quiet_once_cancelled (fun seen => seen.length == n) .eventSource same
  exact ⟨same, by decide +kernel, (quiet 1).1, by decide +kernel, (quiet 4).1, by decide +kernel⟩

end Viva.Consumption
