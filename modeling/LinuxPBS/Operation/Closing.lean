import LinuxPBS.Operation.Lane

/-!
# What closing an exit does

`SaveExit` saves an exit whose vehicle is known: it inserts a row, and the lane is marked
as saved and paid.  This is all it does to the lane, besides the memory of the last card
when nothing was to be paid.
-/

set_option synthInstance.maxSize 10000

namespace LinuxPBS.Operation

open Handler CxxText Db

section Returns

instance {α : Type} (question : Env → ℕ → α) : Returns (ask question) := by
  unfold ask
  infer_instance

instance (message : Message) : Returns (send message) := by
  unfold send
  infer_instance

instance (iRet : DBError) : Returns (followUp iRet) := by
  unfold followUp
  dsimp only
  infer_instance

instance (iRet : DBError) : Returns (reportExit iRet) := by
  unfold reportExit sendMsg2Server
  dsimp only
  infer_instance

instance : Returns showFee2User := by
  unfold showFee2User sendMsg2OBU sendMsg2Server
  dsimp only
  infer_instance

end Returns

/-! ## The row -/

/-- The amounts of a record that has been handed to the database. -/
theorem insertExitTrans_amounts (centraldb localdb : ConnectionAnswers) (store : Db.State)
    {data : OperationSharedData} (hdata : store.operation = some data) (exitTrans : TExitTrans) :
    (insertExitTrans centraldb localdb store exitTrans).2.1.sPaidAmt =
        gfeeFormat exitTrans.sPaidAmt ∧
      (insertExitTrans centraldb localdb store exitTrans).2.1.sGSTAmt =
        gfeeFormat exitTrans.sGSTAmt := by
  unfold insertExitTrans
  simp only [hdata]
  split
  · exact ⟨rfl, rfl⟩
  · unfold clampParkedTime
    split <;> exact ⟨rfl, rfl⟩

/-- The row of `insertexittrans` is the exit, rounded. -/
theorem insertexittrans_eq (s : Station) :
    ∃ row ret s', insertexittrans s = .ok ret s' ∧
      row.sPaidAmt = gfeeFormat s.tExit.sPaidAmt ∧ row.sGSTAmt = gfeeFormat s.tExit.sGSTAmt ∧
      s'.tExit.sPaidAmt = row.sPaidAmt ∧
      lane s' = { lane s with calls := .insertexittrans row ret :: s.calls } := by
  obtain ⟨hpaid, hgst⟩ := insertExitTrans_amounts (s.env.centraldb s.asked)
    (s.env.localdb (s.asked + 1))
    { s.db with operation := some (sharedData { s with asked := s.asked + 1 + 1 }) } rfl
    s.tExit.toTExitTrans
  exact ⟨_, _, _, rfl, hpaid, hgst, rfl, rfl⟩

/-! ## The lane -/

/-- The lane behind `SaveExit`: a row is inserted, and when nothing was to be paid the card of the
exit is the last one. -/
structure Saved (before after : Lane) (row : TExitTrans) (ret : DBError) : Prop where
  lane_eq : after =
    { before with
      calls := .insertexittrans row ret :: before.calls
      gbsavedtrans := true
      gbPaid := true
      gsLastCardNo := after.gsLastCardNo
      gbLastPaidStatus := after.gbLastPaidStatus
      gsLastPaidTrans := after.gsLastPaidTrans
      lastTransTime := after.lastTransTime }
  lastCard : after.gbLastPaidStatus = true ∨
    after.gsLastCardNo = before.gsLastCardNo ∧ after.gbLastPaidStatus = before.gbLastPaidStatus

theorem after_saveExit_unknown {s : Station} (hIU : s.tExit.sIUNo = "") : after saveExit s = s := by
  unfold saveExit
  rw [after_get_bind, if_pos hIU, after_pure]

/-- What follows the inserts keeps an amount that is rounded. -/
theorem sPaidAmt_followUp {s : Station} (hround : gfeeFormat s.tExit.sPaidAmt = s.tExit.sPaidAmt)
    (iRet : DBError) : (after (followUp iRet) s).tExit.sPaidAmt = s.tExit.sPaidAmt := by
  have hask (question : Env → ℕ → DBError) (s : Station) :
      (after (ask question) s).tExit.sPaidAmt = s.tExit.sPaidAmt := rfl
  unfold followUp
  by_cases hret : iRet = .iCentralSuccess
  · simp only [if_pos hret, after_get_bind]
    split <;>
    · rw [after_ask_bind, after_modify_bind, after_get_bind, after_ite]
      split
      · rw [after_modify_bind, hask]
        exact hround
      · rw [after_pure]
        exact hround
  · simp only [if_neg hret, after_pure]

instance (iRet : DBError) : Frames (fun s => s.tExit.sPaidAmt) (reportExit iRet) := by
  unfold reportExit
  dsimp only
  infer_instance

instance : Frames (fun s => s.tExit.sPaidAmt) printReceipt := by
  unfold printReceipt
  infer_instance

/-- `SaveExit` for a vehicle that is known. -/
theorem after_saveExit {s : Station} (hIU : s.tExit.sIUNo ≠ "") :
    ∃ row ret, row.sPaidAmt = gfeeFormat (settleExit s).sPaidAmt ∧
      row.sGSTAmt = gfeeFormat (settleExit s).sGSTAmt ∧
      (after saveExit s).tExit.sPaidAmt = row.sPaidAmt ∧
      Saved (lane s) (lane (after saveExit s)) row ret := by
  obtain ⟨row, ret, s₁, hok₁, hpaid, hgst, hpaid₁, hlane₁⟩ :=
    insertexittrans_eq { s with tExit := settleExit s }
  obtain ⟨iRet, s₂, hok₂⟩ := Returns.returns (m := followUp ret) s₁
  obtain ⟨⟨⟩, s₃, hok₃⟩ := Returns.returns (m := reportExit iRet) s₂
  have hlane₂ : lane s₂ = { lane s with calls := .insertexittrans row ret :: s.calls } := by
    rw [show lane s₂ = lane s₁ from Frames.of_ok hok₂, hlane₁]
    rfl
  have hlane : lane s₃ =
      { lane s with
        calls := .insertexittrans row ret :: s.calls
        gsLastPaidTrans := s₃.tProcess.gsLastPaidTrans
        lastTransTime := s₃.tProcess.lastTransTime } := by
    have hbefore : laneBefore s₃ = laneBefore s₂ := Frames.of_ok hok₃
    simp only [laneBefore, lane, Lane.mk.injEq] at hbefore hlane₂ ⊢
    simp only [hbefore, hlane₂, and_self]
  have hpaid₃ : s₃.tExit.sPaidAmt = row.sPaidAmt := by
    have hround : gfeeFormat s₁.tExit.sPaidAmt = s₁.tExit.sPaidAmt := by
      rw [hpaid₁, hpaid, gfeeFormat_gfeeFormat]
    have hfollow := sPaidAmt_followUp hround ret
    rw [after_of_ok hok₂] at hfollow
    have hreport := Frames.after_eq (fun s => s.tExit.sPaidAmt) (reportExit iRet) s₂
    rw [after_of_ok hok₃] at hreport
    rw [hreport, hfollow, hpaid₁]
  refine ⟨row, ret, hpaid, hgst, ?_⟩
  unfold saveExit
  rw [after_get_bind, if_neg hIU, after_modify_bind, after_bind_of_ok hok₁,
    after_bind_of_ok hok₂, after_bind_of_ok hok₃, after_modify_bind, after_get_bind]
  have hview (s' : Station) : lane (after printReceipt s') = lane s' := Frames.frames s'
  have hamount (s' : Station) : (after printReceipt s').tExit.sPaidAmt = s'.tExit.sPaidAmt :=
    Frames.after_eq (fun s => s.tExit.sPaidAmt) printReceipt s'
  simp only [lane, Lane.mk.injEq] at hlane
  by_cases hfree : s₃.tExit.sPaidAmt = 0
  · simp only [if_pos hfree, after_modify_bind, hview, hamount]
    refine ⟨hpaid₃, ?_, Or.inl rfl⟩
    simp only [lane, hlane]
  · simp only [if_neg hfree, hview, hamount]
    refine ⟨hpaid₃, ?_, Or.inr ⟨?_, ?_⟩⟩
    · simp only [lane, hlane]
    · simp only [hlane]
    · simp only [hlane]

/-! ## Counting calls -/

theorem calls_clearme (s : Station) : (after clearme s).calls = .clearme :: s.calls := by
  simp only [clearme, after_call_bind, after_modify_bind, after_get_bind, after_ite, after_modify]
  split <;> rfl

/-- There are more than `n` calls of a kind. -/
def Exceeds (kind : Call → Bool) (n : ℕ) (s : Station) : Prop := n < s.calls.countP kind

section Counting

variable {kind : Call → Bool} {n : ℕ}

instance : Settled (Exceeds kind n) where
  settled s s' hlane hs := by
    rwa [Exceeds, show s'.calls = s.calls from congrArg Lane.calls hlane]

instance (c : Call) : Leads (Exceeds kind n) (Exceeds kind n) (call c) where
  leads s hs := by
    rw [Exceeds, after_call]
    exact lt_of_lt_of_le hs (List.Sublist.countP_le (List.sublist_cons_self c s.calls))

instance : Leads (Exceeds kind n) (Exceeds kind n) clearme where
  leads s hs := by
    rw [Exceeds, calls_clearme]
    exact Leads.leads (P := Exceeds kind n) (Q := Exceeds kind n) (m := call .clearme) s hs

instance : Leads (Exceeds kind n) (Exceeds kind n) saveExit where
  leads s hs := by
    by_cases hIU : s.tExit.sIUNo = ""
    · rw [after_saveExit_unknown hIU]
      exact hs
    · obtain ⟨row, ret, -, -, -, hsaved⟩ := after_saveExit hIU
      have hcalls : (after saveExit s).calls = (after (call (.insertexittrans row ret)) s).calls :=
        congrArg Lane.calls hsaved.lane_eq
      rw [Exceeds, hcalls]
      exact Leads.leads (P := Exceeds kind n) (Q := Exceeds kind n)
        (m := call (.insertexittrans row ret)) s hs

end Counting

/-- The calls of a kind are the given ones. -/
def Filed (kind : Call → Bool) (found : List Call) (s : Station) : Prop :=
  s.calls.filter kind = found

section Filing

variable {kind : Call → Bool} {found : List Call}

instance : Settled (Filed kind found) where
  settled s s' hlane hs := by
    rwa [Filed, show s'.calls = s.calls from congrArg Lane.calls hlane]

/-- A call of another kind. -/
theorem filed_call {c : Call} (hc : kind c = false) :
    Leads (Filed kind found) (Filed kind found) (call c) where
  leads s hs := by
    rw [Filed, after_call, List.filter_cons_of_neg (by simp [hc])]
    exact hs

theorem filed_clearme (hclear : kind .clearme = false) :
    Leads (Filed kind found) (Filed kind found) clearme where
  leads s hs := by
    rw [Filed, calls_clearme, List.filter_cons_of_neg (by simp [hclear])]
    exact hs

end Filing

end LinuxPBS.Operation
