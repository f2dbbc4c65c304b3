import LinuxPBS.Library.Feed
import Mathlib.Data.Int.Notation
import Mathlib.Data.List.ReduceOption

/-!
# Barcodes from key events

The barcode scanner is a keyboard: it types the characters of a barcode and Enter.
`processInputEvent` keeps track of the two Shift keys, collects the text of the keys that go
down and reports the text at Enter, unless there is none.  Key releases, repeats, keys without
a text and events that are not about keys change nothing.

`scan` is what a scanner types for a barcode.  However its events are mixed with events that
do not matter, the barcodes are reported as they are (`received_scans`).
-/

namespace LinuxPBS.Barcode

open Feed

def evKey : ℕ := 1
def keyEnter : ℕ := 28
def keyLeftShift : ℕ := 42
def keyRightShift : ℕ := 54

/-- `input_event` -/
structure InputEvent where
  type : ℕ
  code : ℕ
  value : ℤ
  deriving DecidableEq, Repr

/-- `scancodes` -/
def scancodes : List String :=
  ["", "ESC", "1", "2", "3", "4", "5", "6", "7", "8", "9", "0", "-", "=", "BACKSPACE", "TAB",
    "q", "w", "e", "r", "t", "y", "u", "i", "o", "p", "[", "]", "ENTER", "LEFTCTRL",
    "a", "s", "d", "f", "g", "h", "j", "k", "l", ";", "'", "`", "LEFTSHIFT", "\\",
    "z", "x", "c", "v", "b", "n", "m", ",", ".", "/", "RIGHTSHIFT", "*", "LEFTALT", "SPACE",
    "CAPSLOCK"]

/-- `keyFromScancode` -/
def keyFromScancode (scancode : ℕ) : List Char := (scancodes.getD scancode "").toList

/-- The state of the keyboard and the text typed since Enter. -/
structure Keys where
  leftShiftPressed : Bool := false
  rightShiftPressed : Bool := false
  barcodeBuffer : List Char := []
  deriving DecidableEq, Repr

/-- What a key adds to the text: only letters have a second meaning. -/
def keyText (shiftPressed : Bool) (scancode : ℕ) : List Char :=
  match keyFromScancode scancode with
  | [c] => [if shiftPressed ∧ c.isAlpha then c.toUpper else c]
  | key => key

/-- `processInputEvent`, with the barcode that `emitCompletedBarcode` reports. -/
def processInputEvent (keys : Keys) (ev : InputEvent) : Keys × Option (List Char) :=
  if ev.type ≠ evKey then (keys, none)
  else if ev.code = keyLeftShift then ({ keys with leftShiftPressed := ev.value ≠ 0 }, none)
  else if ev.code = keyRightShift then ({ keys with rightShiftPressed := ev.value ≠ 0 }, none)
  else if ev.value ≠ 1 then (keys, none)
  else if ev.code = keyEnter then
    if keys.barcodeBuffer = [] then (keys, none)
    else ({ keys with barcodeBuffer := [] }, some keys.barcodeBuffer)
  else
    ({ keys with
        barcodeBuffer := keys.barcodeBuffer ++
          keyText (keys.leftShiftPressed || keys.rightShiftPressed) ev.code }, none)

/-- The keyboard after some events, and the barcodes reported. -/
def received (keys : Keys) (events : List InputEvent) : Keys × List (List Char) :=
  ((feed processInputEvent keys events).1, (feed processInputEvent keys events).2.reduceOption)

@[simp] theorem received_nil (keys : Keys) : received keys [] = (keys, []) := rfl

theorem received_cons (keys : Keys) (ev : InputEvent) (rest : List InputEvent) :
    received keys (ev :: rest) =
      ((received (processInputEvent keys ev).1 rest).1,
        (processInputEvent keys ev).2.toList ++
          (received (processInputEvent keys ev).1 rest).2) := by
  unfold received
  rw [feed_cons]
  cases (processInputEvent keys ev).2 <;> rfl

theorem received_append (keys : Keys) (first second : List InputEvent) :
    received keys (first ++ second) =
      ((received (received keys first).1 second).1,
        (received keys first).2 ++ (received (received keys first).1 second).2) := by
  unfold received
  rw [feed_append, List.reduceOption_append]

/-! ## Events that change nothing -/

/-- The event can change the text, the Shift keys or what is reported. -/
def matters (ev : InputEvent) : Bool :=
  ev.type = evKey ∧ (ev.code = keyLeftShift ∨ ev.code = keyRightShift ∨
    ev.value = 1 ∧ (ev.code = keyEnter ∨ keyFromScancode ev.code ≠ []))

theorem process_of_not_matters (keys : Keys) {ev : InputEvent} (hev : matters ev = false) :
    processInputEvent keys ev = (keys, none) := by
  have hev : ¬(ev.type = evKey ∧ (ev.code = keyLeftShift ∨ ev.code = keyRightShift ∨
      ev.value = 1 ∧ (ev.code = keyEnter ∨ keyFromScancode ev.code ≠ []))) :=
    of_decide_eq_false hev
  unfold processInputEvent
  split
  · rfl
  · rename_i htype
    have hkey := fun hcode => hev ⟨not_not.mp htype, hcode⟩
    rw [if_neg fun hleft => hkey (.inl hleft), if_neg fun hright => hkey (.inr (.inl hright))]
    split
    · rfl
    · rename_i hdown
      have hdown := not_not.mp hdown
      have hnone : keyFromScancode ev.code = [] := by
        by_contra hsome
        exact hkey (.inr (.inr ⟨hdown, .inr hsome⟩))
      rw [if_neg fun henter => hkey (.inr (.inr ⟨hdown, .inl henter⟩)), keyText, hnone,
        List.append_nil]

/-- Events that do not matter may be left out. -/
theorem received_filter (keys : Keys) (events : List InputEvent) :
    received keys events = received keys (events.filter matters) := by
  induction events generalizing keys with
  | nil => rfl
  | cons ev rest ih =>
      cases hev : matters ev with
      | true => rw [List.filter_cons_of_pos hev, received_cons, received_cons, ih]
      | false =>
          rw [List.filter_cons_of_neg (by rw [hev]; exact Bool.false_ne_true), received_cons,
            process_of_not_matters keys hev, ih]
          rfl

/-! ## What a scanner types -/

/-- The characters that have a key. -/
def alphabet : List Char :=
  "1234567890-=qwertyuiop[]asdfghjkl;'`\\zxcvbnm,./*QWERTYUIOPASDFGHJKLZXCVBNM".toList

/-- The key of a character. -/
def keyOf (c : Char) : ℕ := scancodes.idxOf (String.singleton c.toLower)

def keyDown (code : ℕ) : InputEvent := { type := evKey, code := code, value := 1 }
def keyUp (code : ℕ) : InputEvent := { type := evKey, code := code, value := 0 }

/-- A character, a capital with one of the Shift keys. -/
def strokes (shift : ℕ) (c : Char) : List InputEvent :=
  if c.isUpper then [keyDown shift, keyDown (keyOf c), keyUp shift] else [keyDown (keyOf c)]

/-- A barcode. -/
def scan (shift : ℕ) (text : List Char) : List InputEvent :=
  text.flatMap (strokes shift) ++ [keyDown keyEnter]

/-- A key of the alphabet types its character. -/
theorem keyText_keyOf : ∀ c ∈ alphabet, keyText c.isUpper (keyOf c) = [c] ∧
    keyOf c ≠ keyLeftShift ∧ keyOf c ≠ keyRightShift ∧ keyOf c ≠ keyEnter := by
  have hall : (alphabet.all fun c => keyText c.isUpper (keyOf c) = [c] ∧
      keyOf c ≠ keyLeftShift ∧ keyOf c ≠ keyRightShift ∧ keyOf c ≠ keyEnter) = true := by
    decide +kernel
  exact fun c hc => of_decide_eq_true (List.all_eq_true.mp hall c hc)

theorem process_keyDown {c : Char} (hc : c ∈ alphabet) {keys : Keys}
    (hshift : (keys.leftShiftPressed || keys.rightShiftPressed) = c.isUpper) :
    processInputEvent keys (keyDown (keyOf c)) =
      ({ keys with barcodeBuffer := keys.barcodeBuffer ++ [c] }, none) := by
  obtain ⟨htext, hleft, hright, henter⟩ := keyText_keyOf c hc
  simp [processInputEvent, keyDown, hleft, hright, henter, hshift, htext]

/-- A Shift key goes down and up again around whatever is typed in between. -/
theorem process_shift {shift : ℕ} (hshift : shift = keyLeftShift ∨ shift = keyRightShift)
    (buffer : List Char) :
    ∃ pressed : Keys, processInputEvent { barcodeBuffer := buffer } (keyDown shift) =
        (pressed, none) ∧
      (pressed.leftShiftPressed || pressed.rightShiftPressed) = true ∧
      pressed.barcodeBuffer = buffer ∧
      ∀ text, processInputEvent { pressed with barcodeBuffer := text } (keyUp shift) =
        ({ barcodeBuffer := text }, none) := by
  rcases hshift with rfl | rfl
  · exact ⟨{ leftShiftPressed := true, barcodeBuffer := buffer }, rfl, rfl, rfl, fun _ => rfl⟩
  · exact ⟨{ rightShiftPressed := true, barcodeBuffer := buffer }, rfl, rfl, rfl, fun _ => rfl⟩

/-- Without Shift, a character is typed and Shift is released again. -/
theorem received_strokes {shift : ℕ} (hshift : shift = keyLeftShift ∨ shift = keyRightShift)
    {c : Char} (hc : c ∈ alphabet) (buffer : List Char) :
    received { barcodeBuffer := buffer } (strokes shift c) =
      ({ barcodeBuffer := buffer ++ [c] }, []) := by
  unfold strokes
  split
  · rename_i hupper
    obtain ⟨pressed, hdown, hpressed, hbuffer, hup⟩ := process_shift hshift buffer
    rw [received_cons, hdown, received_cons, process_keyDown hc (hpressed.trans hupper.symm),
      received_cons, hup, received_nil, hbuffer]
    rfl
  · rename_i hlower
    have hnone : (({ barcodeBuffer := buffer } : Keys).leftShiftPressed ||
        ({ barcodeBuffer := buffer } : Keys).rightShiftPressed) = c.isUpper :=
      (eq_false_of_ne_true hlower).symm
    rw [received_cons, process_keyDown hc hnone, received_nil]
    rfl

theorem received_text {shift : ℕ} (hshift : shift = keyLeftShift ∨ shift = keyRightShift)
    {text : List Char} (htext : ∀ c ∈ text, c ∈ alphabet) (buffer : List Char) :
    received { barcodeBuffer := buffer } (text.flatMap (strokes shift)) =
      ({ barcodeBuffer := buffer ++ text }, []) := by
  induction text generalizing buffer with
  | nil => rw [List.flatMap_nil, received_nil, List.append_nil]
  | cons c rest ih =>
      rw [List.flatMap_cons, received_append,
        received_strokes hshift (htext c List.mem_cons_self),
        ih (fun other hother => htext other (List.mem_cons_of_mem c hother)), List.append_assoc]
      rfl

/-- Enter reports the text, unless there is none, and starts afresh. -/
theorem received_enter (text : List Char) :
    received { barcodeBuffer := text } [keyDown keyEnter] = ({}, [text].filter (· ≠ [])) := by
  cases text <;> rfl

theorem received_scan {shift : ℕ} (hshift : shift = keyLeftShift ∨ shift = keyRightShift)
    {text : List Char} (htext : ∀ c ∈ text, c ∈ alphabet) :
    received {} (scan shift text) = ({}, [text].filter (· ≠ [])) := by
  have htyped : received {} (text.flatMap (strokes shift)) = ({ barcodeBuffer := text }, []) :=
    received_text hshift htext []
  rw [scan, received_append, htyped, received_enter]
  rfl

/-- The scans of some barcodes, each with one of the Shift keys, are reported as these barcodes
in their order, without the empty ones; whatever events come between them that do not matter. -/
theorem received_scans {barcodes : List (ℕ × List Char)}
    (hshift : ∀ barcode ∈ barcodes, barcode.1 = keyLeftShift ∨ barcode.1 = keyRightShift)
    (htext : ∀ barcode ∈ barcodes, ∀ c ∈ barcode.2, c ∈ alphabet) {events : List InputEvent}
    (hevents : events.filter matters = barcodes.flatMap fun barcode => scan barcode.1 barcode.2) :
    received {} events = ({}, (barcodes.map Prod.snd).filter (· ≠ [])) := by
  rw [received_filter, hevents]
  clear hevents
  induction barcodes with
  | nil => rfl
  | cons barcode rest ih =>
      rw [List.flatMap_cons, received_append,
        received_scan (hshift barcode List.mem_cons_self) (htext barcode List.mem_cons_self),
        ih (fun other hother => hshift other (List.mem_cons_of_mem _ hother))
          (fun other hother => htext other (List.mem_cons_of_mem _ hother)), List.map_cons]
      have hjoin : ([barcode.2].filter (· ≠ [])) ++ (rest.map Prod.snd).filter (· ≠ []) =
          (barcode.2 :: rest.map Prod.snd).filter (· ≠ []) := by
        rw [← List.filter_append]
        rfl
      rw [← hjoin]

/-- `T1a`, typed with a repeat of the `1` and all releases. -/
def ticket : List InputEvent :=
  [keyDown keyLeftShift, keyDown 20, keyUp keyLeftShift, keyUp 20, keyDown 2,
    { type := evKey, code := 2, value := 2 }, keyUp 2, { type := 0, code := 0, value := 0 },
    keyDown 30, keyDown 200, keyDown keyEnter, keyUp keyEnter]

theorem received_scans_ticket :
    received {} ticket = ({}, [['T', '1', 'a']]) := by
  have htext : ∀ barcode ∈ [(keyLeftShift, ['T', '1', 'a'])], ∀ c ∈ barcode.2, c ∈ alphabet := by
    simp only [List.forall_mem_cons, List.not_mem_nil, false_implies, implies_true, and_true]
    decide +kernel
  exact @received_scans _ (by decide) htext ticket (by decide +kernel)

end LinuxPBS.Barcode
