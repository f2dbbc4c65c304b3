import LinuxPBS.Operation.Devices
import LinuxPBS.Operation.Lane

/-!
# The messages of the CHU

A message `[name|sid|rxcmd|values|]` has up to ten values, and which of them are read
depends on the branch `processCHU` takes.  `chuAct` reads a message in the order of the
source and says what it stands for, a `ChuAct`; `perform` does it.  `processCHU` is
left by an exception, or reads behind the last value, when there is no such act, and
otherwise it does the act (`processCHU_agrees`).

The error code of a failed debit has eight characters, two groups of four.  The source
takes them with `substr(1,4)` and `substr(5,8)`, as if the first character had the
number 1, and compares the three characters it gets for the second group with groups
of four.
-/

namespace LinuxPBS.Operation

open Handler CxxText Common

/-! ## What a message stands for -/

/-- The branches of `processCHU` for a failed debit. -/
inductive ChuErrorClass
  /-- "Reversed Command Sequence." -/
  | reversed
  /-- "CHU Return Low Balance." -/
  | lowBalance
  /-- "CHU return Insufficient balance." -/
  | insufficient
  /-- "IU problem." -/
  | iuProblem
  | other
  deriving DecidableEq, Repr

/-- The branch taken for the two groups of an error code. -/
def chuErrorClass (l4 r4 : String) : ChuErrorClass :=
  if r4 = "0004" then .reversed
  else if r4.toList.getLast? = some '8' then .lowBalance
  else if l4 = "0004" ∨ r4 = "0010" then .insufficient
  else if r4 = "0020" ∨ r4 = "0040" ∨ r4 = "00C0" ∨ l4 > "0400" then .iuProblem
  else .other

theorem chuErrorClass_eq_insufficient_iff {l4 r4 : String} {last : Char} (hreversed : r4 ≠ "0004")
    (hlast : r4.toList.getLast? = some last) :
    chuErrorClass l4 r4 = .insufficient ↔ last ≠ '8' ∧ (l4 = "0004" ∨ r4 = "0010") := by
  unfold chuErrorClass
  simp only [if_neg hreversed, hlast, Option.some.injEq]
  split_ifs <;> simp [*]

/-- What `processCHU` does with a message. -/
inductive ChuAct
  /-- invalid, not awaited, or the barrier is open -/
  | ignore
  /-- awaited, but not used -/
  | drop
  | connectionBroken
  /-- not for this antenna, this vehicle or this station -/
  | inquire (delay : ℕ)
  | card (sIUNo sCardNo : String) (iCardStatus cardType : ℤ) (balance : ℚ)
  | debited (awaited : Bool) (sIUNo sCardNo paid balance : String) (cardType : ℤ) (topup : String)
  | tapCard
  | failed (sIUNo sCardNo code : String) (errorClass : ChuErrorClass)
  /-- a reversed sequence that is booked as a debit -/
  | reversed (sIUNo sCardNo code : String) (cardType : ℤ)
  | notDebited (nak : Bool)
  /-- a debit of another vehicle -/
  | late (sIUNo sCardNo debitTime : String) (paid cardType topup : ℤ)
  deriving DecidableEq

/-- The message is rejected. -/
def ChuAct.Rejects : ChuAct → Prop
  | .ignore | .drop | .inquire _ => True
  | _ => False

/-! ## Reading -/

/-- An amount in cents. -/
def readAmount (tmpStr : List String) (i : ℕ) : Option String := do
  let text ← tmpStr[i]?
  let cents ← stoi text
  pure (setFeeFormat (cents / 100))

/-- The values of a debit. -/
def readDebited (awaited : Bool) (tmpStr : List String) : Option ChuAct := do
  let paid ← readAmount tmpStr 3
  let balance ← readAmount tmpStr 5
  let text ← tmpStr[7]?
  let cardType ← stoi text
  let topup ← readAmount tmpStr 8
  let sIUNo ← tmpStr[2]?
  let sCardNo ← tmpStr[4]?
  pure (.debited awaited sIUNo sCardNo paid balance cardType topup)

/-- The answer to an inquiry. -/
def readInquired (s : Station) (iRC : ℤ) (tmpStr : List String) : Option ChuAct :=
  if s.tExit.giDeductionStatus = .Doingdeduction then pure .drop
  else if iRC = 14 ∨ iRC = 15 then do
    let text ← tmpStr[1]?
    let antID ← stoi text
    if antID ≠ s.gtStation.iAntID then pure (.inquire 3)
    else do
      let sIUNo ← tmpStr[2]?
      let sCardNo ← (if iRC = 14 then tmpStr[3]? else some "")
      let text ← tmpStr[5]?
      let cardType ← stoi text
      let text ← tmpStr[4]?
      let balance ← stof text
      pure (.card sIUNo sCardNo (if iRC = 14 then 0 else 1) cardType (balance / 100))
  else pure (.inquire 2)

/-- A failed debit with the two groups of its error code. -/
def readErrorCode (s : Station) (tmpStr : List String) (sIUNo sCardNo code l4 r4 : String) :
    Option ChuAct :=
  if r4 = "0004" then
    if s.tParas.giProcessReversedCMD = 0 then do
      let text ← tmpStr[7]?
      let cardType ← stoi text
      pure (.reversed sIUNo sCardNo code cardType)
    else pure (.failed sIUNo sCardNo code .reversed)
  else do
    let _ ← r4.toList.getLast?
    pure (.failed sIUNo sCardNo code (chuErrorClass l4 r4))

/-- A failed debit. -/
def readDebitFail (s : Station) (tmpStr : List String) : Option ChuAct := do
  let code ← tmpStr[6]?
  if code = "00000001" then pure .tapCard
  else do
    let sIUNo ← tmpStr[2]?
    let sCardNo ← tmpStr[4]?
    let l4 ← substr code 1 4
    let r4 ← substr code 5 8
    readErrorCode s tmpStr sIUNo sCardNo code l4 r4

/-- The answer to a debit. -/
def readDebit (s : Station) (iRC : ℤ) (tmpStr : List String) : Option ChuAct :=
  if iRC = 12 then do
    let text ← tmpStr[1]?
    let antID ← stoi text
    if antID ≠ s.gtStation.iAntID then pure (.inquire 2)
    else do
      let sIUNo ← tmpStr[2]?
      if s.tExit.sIUNo ≠ sIUNo then pure (.inquire 2)
      else do
        let _ ← tmpStr[9]?
        readDebited true tmpStr
  else if iRC = 13 then readDebitFail s tmpStr
  else pure (.notDebited (iRC = 2))

/-- A debit that was not awaited. -/
def readLate (s : Station) (tmpStr : List String) : Option ChuAct := do
  let debitTime ← tmpStr[9]?
  let sIUNo ← tmpStr[2]?
  if s.tExit.sIUNo = sIUNo then readDebited false tmpStr
  else do
    let sCardNo ← tmpStr[4]?
    let text ← tmpStr[3]?
    let paid ← stoi text
    let text ← tmpStr[7]?
    let cardType ← stoi text
    let text ← tmpStr[8]?
    let topup ← stoi text
    pure (.late sIUNo sCardNo (stringConvertDBTime debitTime) paid cardType topup)

/-- What a message stands for; none when a value that is read is missing or no number. -/
def chuAct (s : Station) (eventData : String) : Option ChuAct :=
  if s.tProcess.gbBarrierOpened then pure .ignore
  else
    let fields := parseData '[' ']' '|' eventData
    if fields.length < 4 then pure .ignore
    else do
      let rxcmd ← stoi (fields.getD 2 "")
      let tmpStr := split ',' (fields.getD 3 "")
      let text ← tmpStr[0]?
      let iRC ← stoi text
      if iRC = 24 then pure .connectionBroken
      else if chuCode s.tProcess.fiLastCHUCmd + 1 = rxcmd then
        if rxcmd = 101 then readInquired s iRC tmpStr
        else if rxcmd = 103 then readDebit s iRC tmpStr
        else pure .drop
      else if rxcmd = 103 ∧ iRC = 12 then readLate s tmpStr
      else pure .ignore

/-! ## Acting -/

/-- The last command to the CHU is no longer open. -/
def closeInquiry : Op Unit := modify fun s => { s with tProcess.fiLastCHUCmd := .iInit }

/-- What `processCHU` does with the act it has read. -/
def perform (enableCashcard : Bool → Op Unit) : ChuAct → Op Unit
  | .ignore => pure ()
  | .drop => closeInquiry
  | .connectionBroken => do
      closeInquiry
      sendMsg2Server "90" ",,,,,CHU Connection Down"
  | .inquire delay => do
      closeInquiry
      chuInq delay
  | .card sIUNo sCardNo iCardStatus cardType balance => do
      closeInquiry
      modify fun s => { s with
        tExit.sIUNo := sIUNo, tExit.sCardNo := sCardNo, tExit.iCardStatus := iCardStatus }
      checkIUorCardStatus enableCashcard sIUNo .CHU sCardNo cardType balance
  | .debited awaited sIUNo sCardNo paid balance cardType topup => do
      if awaited then closeInquiry
      debitOK sIUNo sCardNo paid balance cardType topup .CHU
  | .tapCard => do
      closeInquiry
      modify fun s => { s with tExit.giDeductionStatus := .WaitingCard }
      enableCashcard true
      chuInq 2
  | .failed sIUNo sCardNo code errorClass => do
      closeInquiry
      modify fun s => { s with tExit.sCHUDebitCode := code }
      sendMsg2Server "90" (sIUNo ++ "," ++ sCardNo ++ ",,,1, Debit Fail: " ++ code)
      modify fun s => { s with tExit.giDeductionStatus := .WaitingCard }
      if errorClass = .insufficient then
        modify fun s => { s with
          tExit.giDeductionStatus := .InsufficientBalance, tProcess.gsLastCardNo := "" }
      enableCashcard true
  | .reversed sIUNo sCardNo code cardType => do
      closeInquiry
      modify fun s => { s with tExit.sCHUDebitCode := code }
      sendMsg2Server "90" (sIUNo ++ "," ++ sCardNo ++ ",,,1, Debit Fail: " ++ code)
      modify fun s => { s with tExit.giDeductionStatus := .WaitingCard }
      debitOK sIUNo sCardNo "" "" cardType "" .CHU
  | .notDebited nak => do
      closeInquiry
      modify fun s => { s with tExit.giDeductionStatus := .WaitingCard }
      enableCashcard true
      if nak then chuInq 3
  | .late sIUNo sCardNo debitTime paid cardType topup => do
      modify fun s => { s with
        tExit1.sIUNo := sIUNo
        tExit1.sCardNo := sCardNo
        tExit1.sPaidAmt := (paid : ℚ) / 100
        tExit1.sFee := (paid : ℚ) / 100
        tExit1.iCardType := cardType
        tExit1.sTopupAmt := (topup : ℚ) / 100
        tExit1.sExitTime := debitTime
        tExit1.sEntryTime := debitTime }
      updateExit
      closeInquiry
      chuInq 2

/-! ## The text follows what was read -/

/-- How a procedure is left: as expected, or by an exception where nothing is expected. -/
def Follows (result : EStateM.Result Stop Station Unit)
    (expected : Option (EStateM.Result Stop Station Unit)) : Prop :=
  match expected with
  | some left => result = left
  | none => ∃ stop s', result = .error stop s'

namespace Follows

variable {α : Type} {s : Station} {k : α → Op Unit} {p : α → Option ChuAct}
  {f : ChuAct → EStateM.Result Stop Station Unit}

theorem orThrow {value : Option α} (hk : ∀ a, Follows (k a s) ((p a).map f)) :
    Follows ((Operation.orThrow value >>= k) s) ((value >>= p).map f) := by
  cases value with
  | none => exact ⟨.threw, s, rfl⟩
  | some a => exact hk a

theorem index {tmpStr : List String} {i : ℕ} {k : String → Op Unit} {p : String → Option ChuAct}
    (hk : ∀ text, Operation.index tmpStr i = pure text → Follows (k text s) ((p text).map f)) :
    Follows ((Operation.index tmpStr i >>= k) s) ((tmpStr[i]? >>= p).map f) := by
  by_cases hi : i < tmpStr.length
  · have hvalue : Operation.index tmpStr i = pure tmpStr[i] := by rw [Operation.index, dif_pos hi]
    rw [hvalue, List.getElem?_eq_getElem hi]
    exact hk _ hvalue
  · rw [Operation.index, dif_neg hi, List.getElem?_eq_none (not_lt.mp hi)]
    exact ⟨.undefined, s, rfl⟩

/-- A value of the message, as a number. -/
theorem number {number : String → Option α} {tmpStr : List String} {i : ℕ}
    (hk : ∀ a, Follows (k a s) ((p a).map f)) :
    Follows ((do let a ← Operation.orThrow (number (← Operation.index tmpStr i)); k a : Op Unit) s)
      ((do let text ← tmpStr[i]?; let a ← number text; p a : Option ChuAct).map f) :=
  index fun _ _ => orThrow hk

theorem ite {c : Prop} [Decidable c] {m n : Op Unit} {x y : Option ChuAct}
    (hm : c → Follows (m s) (x.map f)) (hn : ¬c → Follows (n s) (y.map f)) :
    Follows ((if c then m else n) s) ((if c then x else y).map f) := by
  split_ifs with hc
  · exact hm hc
  · exact hn hc

end Follows

section Text

variable {s : Station} {enableCashcard : Bool → Op Unit}

theorem chuAmount_follows {tmpStr : List String} {i : ℕ} {k : String → Op Unit}
    {p : String → Option ChuAct} {f : ChuAct → EStateM.Result Stop Station Unit}
    (hk : ∀ text, Follows (k text s) ((p text).map f)) :
    Follows ((chuAmount tmpStr i >>= k) s) ((readAmount tmpStr i >>= p).map f) := by
  unfold chuAmount readAmount
  simp only [bind_assoc, pure_bind]
  exact Follows.number fun _ => hk _

theorem chuDebitOK_follows {tmpStr : List String} {awaited : Bool}
    {f : ChuAct → EStateM.Result Stop Station Unit}
    (hf : ∀ sIUNo sCardNo paid balance cardType topup,
      f (.debited awaited sIUNo sCardNo paid balance cardType topup) =
        debitOK sIUNo sCardNo paid balance cardType topup .CHU s) :
    Follows (chuDebitOK tmpStr s) ((readDebited awaited tmpStr).map f) := by
  unfold chuDebitOK readDebited
  refine chuAmount_follows fun paid => chuAmount_follows fun balance => ?_
  refine Follows.number fun cardType => chuAmount_follows fun topup => ?_
  refine Follows.index fun sIUNo _ => Follows.index fun sCardNo _ => ?_
  exact (hf _ _ _ _ _ _).symm

/-- The state behind `tProcess.fiLastCHUCmd = iInit`. -/
abbrev inquiryClosed (s : Station) : Station := { s with tProcess.fiLastCHUCmd := .iInit }

theorem chuInquired_follows (iRC : ℤ) (tmpStr : List String) :
    Follows (chuInquired enableCashcard iRC tmpStr (inquiryClosed s))
      ((readInquired s iRC tmpStr).map fun act => perform enableCashcard act s) := by
  unfold chuInquired readInquired
  rw [get_bind]
  refine Follows.ite (fun _ => rfl) fun _ => Follows.ite (fun hcard => ?_) fun _ => rfl
  refine Follows.number fun antID => ?_
  rw [get_bind]
  refine Follows.ite (fun _ => rfl) fun _ => Follows.index fun sIUNo _ => ?_
  rw [modify_bind]
  by_cases h14 : iRC = 14
  · simp only [if_pos h14]
    refine Follows.index fun sCardNo _ => ?_
    rw [modify_bind]
    exact Follows.number fun cardType => Follows.number fun balance => rfl
  · simp only [if_neg h14]
    rw [modify_bind]
    exact Follows.number fun cardType => Follows.number fun balance => rfl

theorem chuDebitFail_follows (tmpStr : List String) :
    Follows (chuDebitFail enableCashcard tmpStr (inquiryClosed s))
      ((readDebitFail s tmpStr).map fun act => perform enableCashcard act s) := by
  unfold chuDebitFail readDebitFail
  simp only [bind_pure_unit]
  refine Follows.index fun code _ => Follows.ite (fun _ => rfl) fun _ => ?_
  rw [modify_bind]
  refine Follows.index fun sIUNo hsIUNo => Follows.index fun sCardNo hsCardNo => ?_
  refine Follows.orThrow fun l4 => Follows.orThrow fun r4 => ?_
  unfold chuErrorCode readErrorCode
  by_cases hreversed : r4 = "0004"
  · simp only [if_pos hreversed]
    rw [get_bind]
    refine Follows.ite (fun _ => Follows.number fun cardType => ?_) fun _ => rfl
    rw [hsIUNo, pure_bind, hsCardNo, pure_bind, bind_pure_unit]
    rfl
  · simp only [if_neg hreversed]
    cases hlast : r4.toList.getLast? with
    | none => exact ⟨.threw, _, rfl⟩
    | some last =>
        have hclass := @chuErrorClass_eq_insufficient_iff l4 r4 last hreversed hlast
        rw [orThrow_some, pure_bind]
        by_cases hinsufficient : chuErrorClass l4 r4 = .insufficient
        · rw [if_pos (hclass.mp hinsufficient), hinsufficient]
          rfl
        · rw [if_neg (mt hclass.mpr hinsufficient)]
          unfold Follows
          simp only [bind, Option.bind, pure, Option.map, perform, if_neg hinsufficient]
          rfl

theorem chuDebited_follows (iRC : ℤ) (tmpStr : List String) :
    Follows (chuDebited enableCashcard iRC tmpStr (inquiryClosed s))
      ((readDebit s iRC tmpStr).map fun act => perform enableCashcard act s) := by
  unfold chuDebited readDebit
  refine Follows.ite (fun _ => ?_) fun _ => Follows.ite (fun _ => chuDebitFail_follows tmpStr) ?_
  · refine Follows.number fun antID => ?_
    rw [get_bind]
    refine Follows.ite (fun _ => rfl) fun _ => Follows.index fun sIUNo _ => ?_
    refine Follows.ite (fun _ => rfl) fun _ => Follows.index fun _ _ => ?_
    exact chuDebitOK_follows fun _ _ _ _ _ _ => rfl
  · intro _
    by_cases hnak : iRC = 2
    · simp only [if_pos hnak, decide_eq_true hnak]
      rfl
    · simp only [if_neg hnak, decide_eq_false hnak]
      rfl

theorem chuLateDebit_follows (tmpStr : List String) :
    Follows (chuLateDebit tmpStr s)
      ((readLate s tmpStr).map fun act => perform enableCashcard act s) := by
  unfold chuLateDebit readLate
  refine Follows.index fun debitTime _ => ?_
  rw [get_bind]
  refine Follows.index fun sIUNo hsIUNo => ?_
  refine Follows.ite (fun _ => chuDebitOK_follows fun _ _ _ _ _ _ => rfl) fun _ => ?_
  rw [hsIUNo, pure_bind, modify_bind]
  refine Follows.index fun sCardNo _ => ?_
  rw [modify_bind]
  refine Follows.number fun paid => ?_
  rw [modify_bind]
  refine Follows.number fun cardType => ?_
  rw [modify_bind]
  exact Follows.number fun topup => rfl

/-- `processCHU` does what a message stands for, and is left by an exception, or reads behind the
last value, when it stands for nothing. -/
theorem processCHU_follows (eventData : String) :
    Follows (processCHU enableCashcard eventData s)
      ((chuAct s eventData).map fun act => perform enableCashcard act s) := by
  unfold processCHU chuAct
  rw [get_bind]
  refine Follows.ite (fun _ => rfl) fun _ => ?_
  dsimp only
  refine Follows.ite (fun _ => rfl) fun _ => Follows.orThrow fun rxcmd => ?_
  refine Follows.number fun iRC => Follows.ite (fun _ => ?_) fun _ => ?_
  · rfl
  rw [get_bind]
  refine Follows.ite (fun _ => ?_) fun _ => ?_
  · rw [modify_bind]
    refine Follows.ite (fun _ => chuInquired_follows iRC _) fun _ => ?_
    exact Follows.ite (fun _ => chuDebited_follows iRC _) fun _ => rfl
  · exact Follows.ite (fun _ => chuLateDebit_follows _) fun _ => rfl

end Text

/-! ## A message that is rejected -/

/-- The exit a station works on. -/
@[reducible] def exitView (s : Station) : TExit := s.tExit

instance (sData : String) : Frames exitView (sendMsg2CHU .iEntryInq sData) := by
  unfold sendMsg2CHU
  simp only [reduceCtorEq, if_false]
  infer_instance

instance (delay : ℕ) : Frames exitView (chuInq delay) := by
  unfold chuInq
  infer_instance

instance : Frames exitView closeInquiry := by
  unfold closeInquiry
  infer_instance

theorem tExit_of_rejects (enableCashcard : Bool → Op Unit) {act : ChuAct} (hrejects : act.Rejects)
    (s : Station) : (after (perform enableCashcard act) s).tExit = s.tExit := by
  cases act with
  | ignore => rfl
  | drop => rfl
  | inquire delay =>
      exact Frames.after_eq exitView (closeInquiry >>= fun _ => chuInq delay) s
  | _ => exact hrejects.elim

/-! ## The error code -/

/-- The characters of a text from `start` to `stop`. -/
def group (code : String) (start stop : ℕ) : String :=
  String.ofList ((code.toList.take stop).drop start)

/-- The groups the source takes decide like the first and the last four characters. -/
def GroupsAgree (code : String) : Prop :=
  code.toList.getLast? = some '8' ∨
    (group code 0 4 ≠ "0004" ∧ group code 1 5 ≠ "0004" ∧
      group code 4 8 ≠ "0004" ∧ group code 4 8 ≠ "0010" ∧
      (group code 4 8 = "0020" ∨ group code 4 8 = "0040" ∨ group code 4 8 = "00C0" ∨
        group code 0 4 > "0400" ↔ group code 1 5 > "0400"))

theorem ofList_eq_iff {chars : List Char} {text : String} :
    String.ofList chars = text ↔ chars = text.toList := by
  constructor
  · rintro rfl
    exact String.toList_ofList.symm
  · rintro rfl
    exact String.ofList_toList

/-- The second group has three characters, so only its last one counts. -/
theorem chuErrorClass_short (l4 : String) (c₅ c₆ c₇ : Char) :
    chuErrorClass l4 (String.ofList [c₅, c₆, c₇]) =
      if c₇ = '8' then .lowBalance
      else if l4 = "0004" then .insufficient
      else if l4 > "0400" then .iuProblem
      else .other := by
  have hne : ∀ text : String, text.length = 4 → String.ofList [c₅, c₆, c₇] ≠ text := by
    rintro text htext rfl
    rw [String.length_ofList] at htext
    exact absurd htext (by decide : (3 : ℕ) ≠ 4)
  simp only [chuErrorClass, hne "0004" rfl, hne "0010" rfl, hne "0020" rfl, hne "0040" rfl,
    hne "00C0" rfl, if_false, or_false, false_or, String.toList_ofList, List.getLast?_cons_cons,
    List.getLast?_singleton, Option.some.injEq]

theorem chuErrorClass_eq_iff {code l4 r4 : String} (hlength : code.length = 8)
    (hl4 : substr code 1 4 = some l4) (hr4 : substr code 5 8 = some r4) :
    chuErrorClass l4 r4 = chuErrorClass (group code 0 4) (group code 4 8) ↔ GroupsAgree code := by
  obtain ⟨chars, rfl⟩ : ∃ chars, code = String.ofList chars := ⟨code.toList, by simp⟩
  rw [String.length_ofList] at hlength
  match chars, hlength with
  | [c₀, c₁, c₂, c₃, c₄, c₅, c₆, c₇], _ =>
    obtain rfl : String.ofList [c₁, c₂, c₃, c₄] = l4 := by simpa [substr] using hl4
    obtain rfl : String.ofList [c₅, c₆, c₇] = r4 := by simpa [substr] using hr4
    -- a last eight is no reversed sequence, and the groups overlap by three characters
    have height : c₇ = '8' → String.ofList [c₄, c₅, c₆, c₇] ≠ "0004" := by
      rintro rfl hreversed
      simpa using ofList_eq_iff.mp hreversed
    have hoverlap : String.ofList [c₁, c₂, c₃, c₄] = "0004" →
        String.ofList [c₀, c₁, c₂, c₃] ≠ "0004" ∧ String.ofList [c₄, c₅, c₆, c₇] ≠ "0010" := by
      intro hmid
      obtain ⟨-, -, rfl, rfl⟩ := by simpa using ofList_eq_iff.mp hmid
      constructor
      · intro hfirst
        simpa using ofList_eq_iff.mp hfirst
      · intro hsecond
        simpa using ofList_eq_iff.mp hsecond
    rw [chuErrorClass_short]
    simp only [GroupsAgree, group, chuErrorClass, String.toList_ofList, List.take, List.drop,
      List.getLast?_cons_cons, List.getLast?_singleton, Option.some.injEq]
    generalize String.ofList [c₀, c₁, c₂, c₃] = first at *
    generalize String.ofList [c₁, c₂, c₃, c₄] = middle at *
    generalize String.ofList [c₄, c₅, c₆, c₇] = second at *
    clear hl4 hr4
    split_ifs <;> grind

/-- The error code of a failed debit, and the branch taken for it. -/
def ChuAct.errorCode : ChuAct → Option (String × ChuErrorClass)
  | .failed _ _ code errorClass => some (code, errorClass)
  | .reversed _ _ code _ => some (code, .reversed)
  | _ => none

/-- The branch is that of the two groups the source takes from the code. -/
def ChuAct.Classified (act : ChuAct) : Prop :=
  ∀ code errorClass, act.errorCode = some (code, errorClass) →
    ∃ l4 r4, substr code 1 4 = some l4 ∧ substr code 5 8 = some r4 ∧
      errorClass = chuErrorClass l4 r4

section Classified

variable {α : Type} {P : ChuAct → Prop}

theorem forall_mem_bind {x : Option α} {p : α → Option ChuAct}
    (hp : ∀ a, x = some a → ∀ act ∈ p a, P act) : ∀ act ∈ x >>= p, P act := by
  intro act hact
  obtain ⟨a, ha, hmem⟩ := Option.bind_eq_some_iff.mp hact
  exact hp a ha act hmem

theorem forall_mem_pure {act : ChuAct} (hact : P act) :
    ∀ other ∈ (pure act : Option ChuAct), P other := by
  intro other hother
  rwa [← Option.some.inj hother]

theorem forall_mem_ite {c : Prop} [Decidable c] {x y : Option ChuAct}
    (hx : c → ∀ act ∈ x, P act) (hy : ¬c → ∀ act ∈ y, P act) :
    ∀ act ∈ if c then x else y, P act := by
  split_ifs with hc
  · exact hx hc
  · exact hy hc

/-- An act without an error code. -/
theorem classified_pure {act : ChuAct} (hnone : act.errorCode = none) :
    ∀ other ∈ (pure act : Option ChuAct), other.Classified := by
  refine forall_mem_pure fun code errorClass hcode => ?_
  rw [hnone] at hcode
  cases hcode

theorem classified_readDebited (awaited : Bool) (tmpStr : List String) :
    ∀ act ∈ readDebited awaited tmpStr, act.Classified := by
  unfold readDebited
  refine forall_mem_bind fun _ _ => forall_mem_bind fun _ _ => forall_mem_bind fun _ _ => ?_
  refine forall_mem_bind fun _ _ => forall_mem_bind fun _ _ => forall_mem_bind fun _ _ => ?_
  exact forall_mem_bind fun _ _ => classified_pure rfl

theorem classified_readInquired (s : Station) (iRC : ℤ) (tmpStr : List String) :
    ∀ act ∈ readInquired s iRC tmpStr, act.Classified := by
  unfold readInquired
  refine forall_mem_ite (fun _ => classified_pure rfl) fun _ => ?_
  refine forall_mem_ite (fun _ => ?_) fun _ => classified_pure rfl
  refine forall_mem_bind fun _ _ => forall_mem_bind fun _ _ => ?_
  refine forall_mem_ite (fun _ => classified_pure rfl) fun _ => ?_
  refine forall_mem_bind fun _ _ => forall_mem_bind fun _ _ => forall_mem_bind fun _ _ => ?_
  refine forall_mem_bind fun _ _ => forall_mem_bind fun _ _ => forall_mem_bind fun _ _ => ?_
  exact classified_pure rfl

theorem classified_readErrorCode (s : Station) (tmpStr : List String) (sIUNo sCardNo : String)
    {code l4 r4 : String} (hl4 : substr code 1 4 = some l4) (hr4 : substr code 5 8 = some r4) :
    ∀ act ∈ readErrorCode s tmpStr sIUNo sCardNo code l4 r4, act.Classified := by
  unfold readErrorCode
  refine forall_mem_ite (fun hreversed => ?_) fun _ => ?_
  · have hclass : chuErrorClass l4 r4 = .reversed := if_pos hreversed
    refine forall_mem_ite (fun _ => ?_) fun _ => forall_mem_pure ?_
    · refine forall_mem_bind fun _ _ => forall_mem_bind fun _ _ => forall_mem_pure ?_
      rintro _ _ ⟨⟩
      exact ⟨l4, r4, hl4, hr4, hclass.symm⟩
    · rintro _ _ ⟨⟩
      exact ⟨l4, r4, hl4, hr4, hclass.symm⟩
  · refine forall_mem_bind fun _ _ => forall_mem_pure ?_
    rintro _ _ ⟨⟩
    exact ⟨l4, r4, hl4, hr4, rfl⟩

theorem classified_readDebit (s : Station) (iRC : ℤ) (tmpStr : List String) :
    ∀ act ∈ readDebit s iRC tmpStr, act.Classified := by
  unfold readDebit readDebitFail
  refine forall_mem_ite (fun _ => ?_) fun _ => ?_
  · refine forall_mem_bind fun _ _ => forall_mem_bind fun _ _ => ?_
    refine forall_mem_ite (fun _ => classified_pure rfl) fun _ => forall_mem_bind fun _ _ => ?_
    refine forall_mem_ite (fun _ => classified_pure rfl) fun _ => forall_mem_bind fun _ _ => ?_
    exact classified_readDebited true tmpStr
  · refine forall_mem_ite (fun _ => ?_) fun _ => classified_pure rfl
    refine forall_mem_bind fun code _ => ?_
    refine forall_mem_ite (fun _ => classified_pure rfl) fun _ => ?_
    refine forall_mem_bind fun sIUNo _ => forall_mem_bind fun sCardNo _ => ?_
    refine forall_mem_bind fun l4 hl4 => forall_mem_bind fun r4 hr4 => ?_
    exact classified_readErrorCode s tmpStr sIUNo sCardNo hl4 hr4

theorem classified_readLate (s : Station) (tmpStr : List String) :
    ∀ act ∈ readLate s tmpStr, act.Classified := by
  unfold readLate
  refine forall_mem_bind fun _ _ => forall_mem_bind fun _ _ => ?_
  refine forall_mem_ite (fun _ => classified_readDebited false tmpStr) fun _ => ?_
  refine forall_mem_bind fun _ _ => forall_mem_bind fun _ _ => forall_mem_bind fun _ _ => ?_
  refine forall_mem_bind fun _ _ => forall_mem_bind fun _ _ => forall_mem_bind fun _ _ => ?_
  exact forall_mem_bind fun _ _ => classified_pure rfl

theorem classified_chuAct (s : Station) (eventData : String) :
    ∀ act ∈ chuAct s eventData, act.Classified := by
  unfold chuAct
  refine forall_mem_ite (fun _ => classified_pure rfl) fun _ => ?_
  dsimp only
  refine forall_mem_ite (fun _ => classified_pure rfl) fun _ => forall_mem_bind fun _ _ => ?_
  refine forall_mem_bind fun _ _ => forall_mem_bind fun iRC _ => ?_
  refine forall_mem_ite (fun _ => classified_pure rfl) fun _ => ?_
  refine forall_mem_ite (fun _ => ?_) fun _ => ?_
  · refine forall_mem_ite (fun _ => classified_readInquired s iRC _) fun _ => ?_
    exact forall_mem_ite (fun _ => classified_readDebit s iRC _) fun _ => classified_pure rfl
  · exact forall_mem_ite (fun _ => classified_readLate s _) fun _ => classified_pure rfl

end Classified

/-! ## What a message can do -/

section Robust

variable (enableCashcard : Bool → Op Unit) (s : Station) (eventData : String)

/-- No exception and no index behind the last value, no trace of a message that is rejected, and
the branch of a failed debit by the two groups of four characters of its code. -/
structure ChuRobust : Prop where
  returns : ∃ s', processCHU enableCashcard eventData s = .ok () s'
  rejected : (chuAct s eventData = none ∨ ∃ act, chuAct s eventData = some act ∧ act.Rejects) →
    (after (processCHU enableCashcard eventData) s).tExit = s.tExit
  classified : ∀ act code errorClass, chuAct s eventData = some act →
    act.errorCode = some (code, errorClass) → code.length = 8 →
      errorClass = chuErrorClass (group code 0 4) (group code 4 8)

/-- The message stands for an act, what the act calls is left normally, and the groups of the
error code agree, if it has one. -/
def ChuReadable : Prop :=
  ∃ act, chuAct s eventData = some act ∧ (∃ s', perform enableCashcard act s = .ok () s') ∧
    ∀ code errorClass, act.errorCode = some (code, errorClass) → code.length = 8 →
      GroupsAgree code

theorem chuRobust_iff : ChuRobust enableCashcard s eventData ↔
    ChuReadable enableCashcard s eventData := by
  have hfollows := @processCHU_follows s enableCashcard eventData
  constructor
  · rintro ⟨⟨s', hreturns⟩, -, hclass⟩
    cases hact : chuAct s eventData with
    | none =>
        rw [hact] at hfollows
        obtain ⟨stop, t, hstop⟩ := hfollows
        rw [hreturns] at hstop
        cases hstop
    | some act =>
        rw [hact] at hfollows
        refine ⟨act, hact, ⟨s', hfollows.symm.trans hreturns⟩, ?_⟩
        intro code errorClass hcode hlength
        obtain ⟨l4, r4, hl4, hr4, hbranch⟩ :=
          classified_chuAct s eventData act hact code errorClass hcode
        refine (chuErrorClass_eq_iff hlength hl4 hr4).mp ?_
        rw [← hbranch]
        exact hclass act code errorClass hact hcode hlength
  · rintro ⟨act, hact, ⟨s', hreturns⟩, hgroups⟩
    rw [hact] at hfollows
    have hdone : processCHU enableCashcard eventData s = perform enableCashcard act s := hfollows
    refine ⟨⟨s', hdone.trans hreturns⟩, ?_, ?_⟩
    · rintro (hnone | ⟨other, hother, hrejects⟩)
      · rw [hact] at hnone
        cases hnone
      · obtain rfl : act = other := Option.some.inj (hact.symm.trans hother)
        rw [after, hdone, ← after]
        exact tExit_of_rejects enableCashcard hrejects s
    · intro other code errorClass hother hcode hlength
      obtain rfl : act = other := Option.some.inj (hact.symm.trans hother)
      obtain ⟨l4, r4, hl4, hr4, hbranch⟩ :=
        classified_chuAct s eventData act hact code errorClass hcode
      rw [hbranch]
      exact (chuErrorClass_eq_iff hlength hl4 hr4).mpr (hgroups code errorClass hcode hlength)

end Robust

/-- A debit is awaited. -/
def awaiting : Station := { tProcess.fiLastCHUCmd := .iDebit }

/-- An inquiry is awaited. -/
def inquiring : Station := { tProcess.fiLastCHUCmd := .iEntryInq }

/-- A failed debit with one value is read behind its end; an answer to an inquiry whose card type is
missing has already named the vehicle; the code of a reversed sequence is not recognised. -/
theorem not_chuRobust :
    (∃ s', processCHU (fun _ => pure ()) "[PMS|1|103|13|]" awaiting = .error .undefined s') ∧
    (chuAct inquiring "[PMS|1|101|14,0,1090000001,1111|]" = none ∧
      (after (processCHU (fun _ => pure ()) "[PMS|1|101|14,0,1090000001,1111|]")
        inquiring).tExit.sIUNo = "1090000001") ∧
    (chuAct awaiting "[PMS|1|103|13,0,1090000001,0,1111,0,00000004|]" =
        some (.failed "1090000001" "1111" "00000004" .other) ∧
      chuErrorClass (group "00000004" 0 4) (group "00000004" 4 8) = .reversed) := by
  refine ⟨⟨_, by rfl⟩, ⟨by decide +kernel, by decide +kernel⟩, by decide +kernel, by decide +kernel⟩

end LinuxPBS.Operation
