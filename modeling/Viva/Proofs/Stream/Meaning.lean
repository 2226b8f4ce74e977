import Mathlib.Logic.Relation
import Viva.Stream.Event
import Viva.Proofs.Json.Integer

/-! # What a payload means

The members of a payload may be written in another order, under the other spelling of a name, with
members of other names between them, and with an identifier as a number or as its digits. The
event is the same, and so is whether there is one.

A name that is half of a surrogate pair has no text, so a member of such a name is not passed over:
the payload is refused. And `-0` is a double and not an integer, so it does not read as its digits.
-/

namespace Viva

open Json (Tree Piece Numeral)

/-- The members of an object as they are written. -/
abbrev Members := List (List Piece × Tree)

/-- The records whose data are read. -/
inductive PayloadKind where
  | token
  | done
  | assessmentComplete
  | error
  deriving Repr, DecidableEq

namespace PayloadKind

/-- The name of the record. -/
def name : PayloadKind → String
  | token => "token"
  | done => "done"
  | assessmentComplete => "assessment_complete"
  | error => "error"

/-- The fields of the record. -/
def fields : PayloadKind → List Payload.Names
  | token => Event.tokenFields
  | done => Event.doneFields
  | assessmentComplete => Event.completeFields
  | error => Event.errorFields

/-- The event of the data. -/
def read? : PayloadKind → Tree → Option Event
  | token => Event.token?
  | done => Event.done?
  | assessmentComplete => Event.complete?
  | error => Event.error?

/-- The event of the values of the fields. -/
def event? : PayloadKind → List (Option Tree) → Option Event
  | token, [content] => do some (.token (← Payload.requiredText? content))
  | done, [attempt, assignment, title] => do
    let attempt ← Payload.identifier? attempt
    let assignment ← Payload.identifier? assignment
    let title ← Payload.optionalText? title
    some (.done ⟨attempt, assignment, title⟩)
  | assessmentComplete, [evaluation] => do
    some (.assessmentComplete (← Payload.identifier? evaluation))
  | error, [text, recoverable] => do
    let text ← Payload.requiredText? text
    let recoverable ← Payload.optionalBool? false recoverable
    some (.error text recoverable)
  | _, _ => none

/-- The data are read by putting the values to the fields first. -/
theorem read?_eq_bind (kind : PayloadKind) (data : Tree) :
    kind.read? data = (Payload.fields? kind.fields data).bind kind.event? := by
  cases kind with
  | token =>
      change Event.token? data = (Payload.fields? Event.tokenFields data).bind token.event?
      unfold Event.token?
      cases Payload.fields? Event.tokenFields data with
      | none => rfl
      | some found =>
          match found with
          | [] | [_] | _ :: _ :: _ => rfl
  | done =>
      change Event.done? data = (Payload.fields? Event.doneFields data).bind done.event?
      unfold Event.done?
      cases Payload.fields? Event.doneFields data with
      | none => rfl
      | some found =>
          match found with
          | [] | [_] | [_, _] | [_, _, _] | _ :: _ :: _ :: _ :: _ => rfl
  | assessmentComplete =>
      change Event.complete? data =
        (Payload.fields? Event.completeFields data).bind assessmentComplete.event?
      unfold Event.complete?
      cases Payload.fields? Event.completeFields data with
      | none => rfl
      | some found =>
          match found with
          | [] | [_] | _ :: _ :: _ => rfl
  | error =>
      change Event.error? data = (Payload.fields? Event.errorFields data).bind error.event?
      unfold Event.error?
      cases Payload.fields? Event.errorFields data with
      | none => rfl
      | some found =>
          match found with
          | [] | [_] | [_, _] | _ :: _ :: _ :: _ => rfl

/-- A record of the kind reads as its data do. -/
theorem toOption_decode (kind : PayloadKind) {data : String} {tree : Tree}
    (reads : Tree.ofText? (Text.trimChars data.toList) = some tree) :
    (Event.decode ⟨kind.name, data⟩).toOption = kind.read? tree := by
  have filled : (Text.trimChars data.toList).isEmpty = false := by
    cases chars : Text.trimChars data.toList with
    | nil =>
        rw [chars, Tree.ofText?, Json.Token.ofText?] at reads
        cases reads
    | cons => rfl
  cases kind <;>
    simp only [name, Event.decode, Event.ofData?, filled, Bool.false_eq_true, if_false, reads,
      Option.bind_some, read?]
  · cases Event.token? tree <;> rfl
  · cases Event.done? tree <;> rfl
  · cases Event.complete? tree <;> rfl
  · cases Event.error? tree <;> rfl

end PayloadKind

namespace Payload

/-- The two spellings of the names of identifiers and titles. -/
def spellings : List (String × String) :=
  [("attempt_id", "attemptId"), ("assignment_id", "assignmentId"),
    ("objective_title", "objectiveTitle"), ("evaluation_id", "evaluationId")]

/-- The names of identifiers. -/
def identifierNames : List String :=
  ["attempt_id", "attemptId", "assignment_id", "assignmentId", "evaluation_id", "evaluationId"]

/-- One change of an object's members that leaves alone what a record of the kind means. -/
inductive Rewording (kind : PayloadKind) : Members → Members → Prop where
  /-- The members are in another order. -/
  | permuted {members members' : Members} (order : members.Perm members') :
      Rewording kind members members'
  /-- A member of a name that is no field's comes to them. -/
  | extended {members : Members} {name : List Piece} {text : List Char} (value : Tree)
      (named : Json.textOf? name = some text)
      (unknown : ∀ names ∈ kind.fields, String.ofList text ∉ names) :
      Rewording kind members ((name, value) :: members)
  /-- A name is spelled in the other way. -/
  | respelled (before after : Members) {name name' : List Piece} {text text' : List Char}
      (value : Tree)
      (named : Json.textOf? name = some text) (named' : Json.textOf? name' = some text')
      (spelling : (String.ofList text, String.ofList text') ∈ spellings) :
      Rewording kind (before ++ (name, value) :: after) (before ++ (name', value) :: after)
  /-- An identifier that is an integer is written as the string of its digits. -/
  | quoted (before after : Members) {name digits : List Piece} {text : List Char} {n : Int}
      {number : Numeral}
      (named : Json.textOf? name = some text) (identifier : String.ofList text ∈ identifierNames)
      (low : -Nat.pow 2 63 ≤ n) (high : n < Nat.pow 2 64)
      (written : Json.Token.ofText? (toString n).toList = some [.number number])
      (string : Json.textOf? digits = some (toString n).toList) :
      Rewording kind (before ++ (name, .number number) :: after)
        (before ++ (name, .string digits) :: after)

/-- Any number of changes, forth and back. -/
abbrev Rewords (kind : PayloadKind) : Members → Members → Prop :=
  Relation.EqvGen (Rewording kind)

/-! ## One member

`collect?` puts the members to their fields one at a time. Whether a member finds its place depends
on which fields have a value and not on the order in which they got it, so a member may be taken
out of its place and read last. -/

/-- The values of the fields when one that had none gets its value. -/
def put? (i : Nat) (value : Tree) (found : List (Option Tree)) : Option (List (Option Tree)) :=
  match found[i]? with
  | some none => some (found.set i (some value))
  | _ => none

/-- The values of the fields after one more member. -/
def place? (fields : List Names) (member : List Piece × Tree) (found : List (Option Tree)) :
    Option (List (Option Tree)) := do
  let text ← Json.textOf? member.1
  match fieldIndex? fields (String.ofList text) with
  | none => some found
  | some i => put? i member.2 found

theorem place?_of_text {fields : List Names} {name : List Piece} {text : List Char} (value : Tree)
    (named : Json.textOf? name = some text) :
    place? fields (name, value) =
      match fieldIndex? fields (String.ofList text) with
      | none => some
      | some i => put? i value := by
  funext found
  simp only [place?, named, Option.bind_eq_bind, Option.bind_some]
  cases fieldIndex? fields (String.ofList text) <;> rfl

theorem collect?_cons (fields : List Names) (member : List Piece × Tree) (rest : Members)
    (found : List (Option Tree)) :
    collect? fields (member :: rest) found =
      (place? fields member found).bind (collect? fields rest) := by
  obtain ⟨name, value⟩ := member
  rw [collect?, place?]
  cases Json.textOf? name with
  | none => rfl
  | some text =>
      simp only [Option.bind_eq_bind, Option.bind_some]
      cases fieldIndex? fields (String.ofList text) with
      | none => rfl
      | some i =>
          simp only [put?]
          cases found[i]? with
          | none => rfl
          | some value => cases value <;> rfl

theorem collect?_append (fields : List Names) (first rest : Members) (found : List (Option Tree)) :
    collect? fields (first ++ rest) found =
      (collect? fields first found).bind (collect? fields rest) := by
  induction first generalizing found with
  | nil => rfl
  | cons member first ih =>
      rw [List.cons_append, collect?_cons, collect?_cons, Option.bind_assoc]
      exact congrArg (Option.bind _) (funext ih)

/-- A field gets no second value. -/
theorem put?_twice (i : Nat) (v w : Tree) (found : List (Option Tree)) :
    (put? i v found).bind (put? i w) = none := by
  unfold put?
  split
  · rename_i free
    obtain ⟨bound, -⟩ := List.getElem?_eq_some_iff.mp free
    simp only [Option.bind_some, List.getElem?_set_self bound]
  · rfl

/-- The values of two fields may be put there in either order. -/
theorem put?_comm (i j : Nat) (v w : Tree) (found : List (Option Tree)) :
    (put? i v found).bind (put? j w) = (put? j w found).bind (put? i v) := by
  by_cases same : i = j
  · rw [same, put?_twice, put?_twice]
  · have later (v : Tree) : (found.set i (some v))[j]? = found[j]? := List.getElem?_set_ne same
    have sooner (w : Tree) : (found.set j (some w))[i]? = found[i]? :=
      List.getElem?_set_ne (Ne.symm same)
    have order := List.set_comm (some v) (some w) (l := found) same
    unfold put?
    split <;> split <;> simp_all

/-- Two members may be read in either order. -/
theorem place?_comm (fields : List Names) (first second : List Piece × Tree)
    (found : List (Option Tree)) :
    (place? fields first found).bind (place? fields second) =
      (place? fields second found).bind (place? fields first) := by
  unfold place?
  cases Json.textOf? first.1 with
  | none => cases Json.textOf? second.1 <;> simp
  | some text =>
    cases Json.textOf? second.1 with
    | none => simp
    | some text' =>
        cases one : fieldIndex? fields (String.ofList text) <;>
          cases other : fieldIndex? fields (String.ofList text') <;>
            simp [one, other, put?_comm]

/-- The order of the members does not matter. -/
theorem collect?_perm {fields : List Names} {members members' : Members}
    (order : members.Perm members') (found : List (Option Tree)) :
    collect? fields members found = collect? fields members' found := by
  induction order generalizing found with
  | nil => rfl
  | cons member _ ih =>
      rw [collect?_cons, collect?_cons]
      exact congrArg (Option.bind _) (funext ih)
  | swap second first rest =>
      have both (a b : List Piece × Tree) : collect? fields (a :: b :: rest) found =
          ((place? fields a found).bind (place? fields b)).bind (collect? fields rest) := by
        rw [collect?_cons, Option.bind_assoc]
        exact congrArg (Option.bind _) (funext (collect?_cons fields b rest))
      rw [both, both, place?_comm]
  | trans _ _ ih ih' => exact (ih found).trans (ih' found)

/-- A member may be read last. -/
theorem collect?_middle (fields : List Names) (before after : Members)
    (member : List Piece × Tree) (found : List (Option Tree)) :
    collect? fields (before ++ member :: after) found =
      (collect? fields (before ++ after) found).bind (place? fields member) := by
  have last : (before ++ member :: after).Perm (before ++ after ++ [member]) :=
    List.perm_middle.trans (List.perm_append_singleton _ _).symm
  rw [collect?_perm last, collect?_append]
  refine congrArg (Option.bind _) (funext fun found => ?_)
  exact (collect?_cons fields member [] found).trans (Option.bind_fun_some _)

/-! ## The names of fields -/

theorem fieldIndex?_eq_none {fields : List Names} {name : String}
    (unknown : ∀ names ∈ fields, name ∉ names) : fieldIndex? fields name = none := by
  simpa [fieldIndex?, List.findIdx?_eq_none_iff] using unknown

/-- A name and its other spelling are of one field. -/
theorem fieldIndex?_spelling (kind : PayloadKind) {name name' : String}
    (spelling : (name, name') ∈ spellings) :
    fieldIndex? kind.fields name = fieldIndex? kind.fields name' := by
  have each : ∀ pair ∈ spellings,
      fieldIndex? kind.fields pair.1 = fieldIndex? kind.fields pair.2 := by
    cases kind <;> decide
  exact each _ spelling

/-- A field that is named as an identifier is read as one. -/
theorem event?_identifier (kind : PayloadKind) {name : String} {i : Nat}
    (identifier : name ∈ identifierNames) (known : fieldIndex? kind.fields name = some i)
    {value value' : Tree} (same : identifier? (some value) = identifier? (some value'))
    (found : List (Option Tree)) :
    kind.event? (found.set i (some value)) = kind.event? (found.set i (some value')) := by
  have places : (kind = .done ∧ (i = 0 ∨ i = 1)) ∨ (kind = .assessmentComplete ∧ i = 0) := by
    have each : ∀ name ∈ identifierNames, ∀ i ∈ fieldIndex? kind.fields name,
        (kind = .done ∧ (i = 0 ∨ i = 1)) ∨ (kind = .assessmentComplete ∧ i = 0) := by
      cases kind <;> decide
    exact each name identifier i known
  obtain ⟨rfl, rfl | rfl⟩ | ⟨rfl, rfl⟩ := places
  · match found with
    | [] | [_] | [_, _] | _ :: _ :: _ :: _ :: _ => rfl
    | [_, _, _] => simp only [List.set_cons_zero, PayloadKind.event?, same]
  · match found with
    | [] | [_] | [_, _] | _ :: _ :: _ :: _ :: _ => rfl
    | [_, _, _] => simp only [List.set_cons_zero, List.set_cons_succ, PayloadKind.event?, same]
  · match found with
    | [] | _ :: _ :: _ => rfl
    | [_] => simp only [List.set_cons_zero, PayloadKind.event?, same]

/-! ## Rewordings -/

/-- One change leaves the event as it is. -/
theorem Rewording.read? {kind : PayloadKind} {members members' : Members}
    (change : Rewording kind members members') :
    kind.read? (.object members) = kind.read? (.object members') := by
  rw [PayloadKind.read?_eq_bind, PayloadKind.read?_eq_bind, fields?, fields?]
  cases change with
  | permuted order => rw [collect?_perm order]
  | @extended _ _ text value named unknown =>
      have other : fieldIndex? kind.fields (String.ofList text) = none :=
        fieldIndex?_eq_none unknown
      rw [collect?_cons, place?_of_text value named, other, Option.bind_some]
  | respelled _ _ value named named' spelling =>
      rw [collect?_middle, collect?_middle, place?_of_text value named,
        place?_of_text value named', fieldIndex?_spelling kind spelling]
  | @quoted _ _ _ digits text n number named identifier low high written string =>
      have integer : number = .ofInt n := by
        rw [Json.ofText?_integer] at written
        cases written
        rfl
      have same : identifier? (some (.number number)) = identifier? (some (.string digits)) := by
        rw [identifier?, identifier?, integer, Json.text?_ofInt low high, string]
        simp only [Option.map_some, String.ofList_toList]
      rw [collect?_middle, collect?_middle, place?_of_text _ named, place?_of_text _ named,
        Option.bind_assoc, Option.bind_assoc]
      refine congrArg (Option.bind _) (funext fun found => ?_)
      cases known : fieldIndex? kind.fields (String.ofList text) with
      | none => rfl
      | some i =>
          simp only [put?]
          split
          · exact event?_identifier kind identifier known same found
          · rfl

/-- Any number of changes leaves the event as it is. -/
theorem Rewords.read? {kind : PayloadKind} {members members' : Members}
    (same : Rewords kind members members') :
    kind.read? (.object members) = kind.read? (.object members') := by
  induction same with
  | rel _ _ change => exact change.read?
  | refl _ => rfl
  | symm _ _ _ ih => exact ih.symm
  | trans _ _ _ _ _ ih ih' => exact ih.trans ih'

end Payload

namespace Event

/-- Records of one kind whose objects mean the same give the same event, or none of them does. -/
theorem decode_reworded (kind : PayloadKind) {data data' : String} {members members' : Members}
    (reads : Tree.ofText? (Text.trimChars data.toList) = some (.object members))
    (reads' : Tree.ofText? (Text.trimChars data'.toList) = some (.object members'))
    (same : Payload.Rewords kind members members') :
    (decode ⟨kind.name, data⟩).toOption = (decode ⟨kind.name, data'⟩).toOption := by
  rw [kind.toOption_decode reads, kind.toOption_decode reads']
  exact same.read?

theorem decode_reworded_done :
    (decode ⟨"done", "\x7b\"attempt_id\":42,\"x\":[1e999]\x7d"⟩).toOption =
      (decode ⟨"done", " \x7b\"attemptId\":\"42\"\x7d"⟩).toOption := by
  let written (text : String) : List Piece := text.toList.map .char
  let huge : Numeral := ⟨false, [1], [], some (false, [9, 9, 9])⟩
  let other : List Piece × Tree := (written "x", .array [.number huge])
  have quoted : Payload.Rewords .done
      [(written "attempt_id", .number ⟨false, [4, 2], [], none⟩), other]
      [(written "attempt_id", .string (written "42")), other] :=
    .rel _ _ (.quoted [] [other] (n := 42) rfl (by decide) (by decide) (by decide) (by cbv) rfl)
  have respelled : Payload.Rewords .done
      [(written "attempt_id", .string (written "42")), other]
      [(written "attemptId", .string (written "42")), other] :=
    .rel _ _ (.respelled [] [other] _ rfl rfl (by decide))
  have permuted : Payload.Rewords .done
      [(written "attemptId", .string (written "42")), other]
      [other, (written "attemptId", .string (written "42"))] :=
    .rel _ _ (.permuted (.swap _ _ _))
  have removed : Payload.Rewords .done
      [other, (written "attemptId", .string (written "42"))]
      [(written "attemptId", .string (written "42"))] :=
    .symm _ _ (.rel _ _ (.extended _ rfl (by decide)))
  exact decode_reworded .done (by cbv) (by cbv)
    (quoted.trans _ _ _ (respelled.trans _ _ _ (permuted.trans _ _ _ removed)))

/-- A member whose name is half of a surrogate pair is not passed over, and `-0` does not read as
    its digits. -/
theorem decode_nameless_and_negative_zero :
    (decode ⟨"token", "\x7b\"content\":\"a\"\x7d"⟩).toOption = some (.token "a") ∧
    (decode ⟨"token", "\x7b\"content\":\"a\",\"\\ud800\":0\x7d"⟩).toOption = none ∧
    (decode ⟨"done", "\x7b\"attempt_id\":-0\x7d"⟩).toOption =
      some (.done ⟨some "-0.0", none, none⟩) ∧
    (decode ⟨"done", "\x7b\"attempt_id\":\"-0\"\x7d"⟩).toOption =
      some (.done ⟨some "-0", none, none⟩) ∧
    (decode ⟨"done", "\x7b\"attempt_id\":\"0\"\x7d"⟩).toOption =
      some (.done ⟨some "0", none, none⟩) := by
  decide +kernel

end Event

end Viva
