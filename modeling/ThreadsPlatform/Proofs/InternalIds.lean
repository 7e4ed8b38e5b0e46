/-
The ids of internal Commands, and the Commands that arrive from outside.

Under their own ids the dispatchers never meet a Command: an activity
that is PENDING has none yet, and a schedule has none at its due time.
So long as no received Command takes an id of theirs, neither dispatcher
finds one that conflicts. One received Command that does take such an id
ends the batch of every tick from the activity's due time on.

`strftime` is asked to tell due times apart.
-/
import ThreadsPlatform.Application.ActivityDispatch
import ThreadsPlatform.Proofs.ConversationSync
import ThreadsPlatform.Proofs.Idempotency

namespace ThreadsPlatform

open Relational Table

variable {e : DispatcherEvent} {limit : Int} {n v : Nat} {base : State} {message : String}
  {u u' : Uuid} {locked : Uuid → Bool}

-- ==== texts

theorem hexDigits_length (n v : Nat) : (hexDigits n v).length = n := by
  induction n generalizing v with
  | zero => rfl
  | succ n ih => simp [hexDigits, ih]

/-- `n` digits are enough to tell numbers below `16 ^ n` apart. -/
theorem hexDigits_injective {v' : Nat} (hv : v < 16 ^ n) (hv' : v' < 16 ^ n)
    (h : hexDigits n v = hexDigits n v') : v = v' := by
  have hdigit : ∀ a < 16, ∀ b < 16, Nat.digitChar a = Nat.digitChar b → a = b := by decide
  induction n generalizing v v' with
  | zero => omega
  | succ n ih =>
    obtain ⟨hhigh, hlow⟩ := List.append_inj' h rfl
    have hquot : v / 16 = v' / 16 :=
      ih (Nat.div_lt_of_lt_mul (by rw [Nat.mul_comm, ← Nat.pow_succ]; exact hv))
        (Nat.div_lt_of_lt_mul (by rw [Nat.mul_comm, ← Nat.pow_succ]; exact hv')) hhigh
    have hrem : v % 16 = v' % 16 :=
      hdigit _ (Nat.mod_lt _ (by decide)) _ (Nat.mod_lt _ (by decide)) (List.singleton_inj.mp hlow)
    omega

theorem hexDigits_ne_dash {c : Char} (h : c ∈ hexDigits n v) : c ≠ '-' := by
  have hdigit : ∀ a < 16, Nat.digitChar a ≠ '-' := by decide
  induction n generalizing v with
  | zero => cases h
  | succ n ih =>
    rcases List.mem_append.mp h with hhigh | hlow
    · exact ih hhigh
    · rw [List.mem_singleton.mp hlow]
      exact hdigit _ (Nat.mod_lt _ (by decide))

/-- Without its separators the text of a UUID is its digits. -/
theorem Uuid.str_digits (u : Uuid) :
    (Uuid.str u).toList.filter (fun c => decide (c ≠ '-')) = hexDigits 32 u.toNat := by
  have hself (l : List Char) (h : ∀ c ∈ l, c ∈ hexDigits 32 u.toNat) :
      l.filter (fun c => decide (c ≠ '-')) = l :=
    List.filter_eq_self.mpr fun c hc => decide_eq_true (hexDigits_ne_dash (h c hc))
  simp only [Uuid.str, String.toList_ofList, List.filter_append, List.filter_cons, ne_eq,
    not_true_eq_false, decide_false, Bool.false_eq_true, if_false]
  simp only [ne_eq] at hself
  rw [hself _ fun c hc => List.mem_of_mem_take hc,
    hself _ fun c hc => List.mem_of_mem_drop (List.mem_of_mem_take hc),
    hself _ fun c hc => List.mem_of_mem_drop (List.mem_of_mem_take hc),
    hself _ fun c hc => List.mem_of_mem_drop (List.mem_of_mem_take hc),
    hself _ fun c hc => List.mem_of_mem_drop hc]
  generalize hexDigits 32 u.toNat = ds
  have h8 := List.take_append_drop 8 ds
  have h12 := List.take_append_drop 4 (ds.drop 8)
  have h16 := List.take_append_drop 4 (ds.drop 12)
  have h20 := List.take_append_drop 4 (ds.drop 16)
  simp only [List.drop_drop] at h12 h16 h20
  rw [List.append_assoc, List.append_assoc, List.append_assoc, h20, h16, h12, h8]

/-- Different UUIDs have different texts. -/
theorem Uuid.str_injective (h : u.str = u'.str) : u = u' := by
  have hdigits : hexDigits 32 u.toNat = hexDigits 32 u'.toNat := by
    rw [← Uuid.str_digits, ← Uuid.str_digits, h]
  exact BitVec.eq_of_toNat_eq (hexDigits_injective u.isLt u'.isLt hdigits)

theorem Uuid.str_length (u : Uuid) : u.str.toList.length = 36 := by
  simp [Uuid.str, hexDigits_length]

-- ==== ids

variable {cfg : Settings} {lax : Json → Option Int} {strftime : Time → String}
  {M M' : Dispatchers} {S S' : Syncs}

/-- An id the dispatchers form. -/
def InternalId (strftime : Time → String) (id : String) : Prop :=
  (∃ u, id = activityCommandId u) ∨ ∃ k due, id = syncCommandId strftime k due

theorem activityCommandId_injective (h : activityCommandId u = activityCommandId u') : u = u' := by
  exact Uuid.str_injective ((String.append_right_inj _).mp h)

/-- A UUID's text has a fixed length, so the due time can be read off. -/
theorem syncCommandId_injective (hstrftime : Function.Injective strftime) {k k' : Uuid}
    {due due' : Time} (h : syncCommandId strftime k due = syncCommandId strftime k' due') :
    k = k' ∧ due = due' := by
  unfold syncCommandId at h
  rw [String.append_assoc, String.append_assoc, String.append_assoc, String.append_assoc] at h
  have hrest := (String.append_right_inj _).mp h
  have hlist : k.str.toList ++ (":" ++ strftime due).toList
      = k'.str.toList ++ (":" ++ strftime due').toList := by
    rw [← String.toList_append, ← String.toList_append, hrest]
  obtain ⟨hid, htail⟩ := List.append_inj hlist ((Uuid.str_length k).trans (Uuid.str_length k').symm)
  exact ⟨Uuid.str_injective (String.toList_inj.mp hid),
    hstrftime ((String.append_right_inj _).mp (String.toList_inj.mp htail))⟩

/-- The two kinds of ids differ in their first letter. -/
theorem activity_ne_sync (rest : String) (k : Uuid) (due : Time) :
    "activity:" ++ rest ≠ syncCommandId strftime k due := by
  intro h
  unfold syncCommandId at h
  rw [String.append_assoc, String.append_assoc] at h
  have hactivity : "activity:".toList = 'a' :: "ctivity:".toList := by decide
  have hsync : "conversation-sync:".toList = 'c' :: "onversation-sync:".toList := by decide
  have hlist : "activity:".toList ++ rest.toList
      = "conversation-sync:".toList ++ (k.str ++ (":" ++ strftime due)).toList := by
    rw [← String.toList_append, ← String.toList_append, h]
  rw [hactivity, hsync, List.cons_append, List.cons_append, List.cons.injEq] at hlist
  exact absurd hlist.1 (by decide)

-- ==== new Commands

/-- Commands may be added under one id; no finished one changes. -/
structure State.Adds (id : String) (s s' : State) : Prop where
  only : ∀ k c, s'.commands.get? k = some c → s.commands.get? k = some c ∨ k = id
  kept : ∀ f : Command, f.status.terminal = true → s.commands.get? f.commandId = some f →
    s'.commands.get? f.commandId = some f

theorem State.Adds.refl (id : String) (s : State) : State.Adds id s s :=
  ⟨fun _ _ h => .inl h, fun _ _ h => h⟩

theorem State.Adds.of_put {s s' : State} {c : Command}
    {C : Table ThreadsPlatform.commands} (hfresh : s.commands.get? c.commandId = none)
    (hput : Put s.commands c C) (hs' : s'.commands = C) : State.Adds c.commandId s s' := by
  constructor
  · intro k e he
    rw [hs'] at he
    rcases hput.cases he with ⟨hk, -⟩ | ⟨-, hold⟩
    · exact .inr hk
    · exact .inl hold
  · intro f _ hf
    rw [hs']
    exact hput.get?_of_fresh hfresh hf

open CommandRuntime

/-- A received Command is stored under its own id, if at all. -/
theorem receive_adds {d : Draws} {now : Time} {envelope : CommandEnvelope}
    {receipt : CommandReceipt} {s s' : State}
    (h : receive cfg d now envelope s = .ok (receipt, s')) :
    State.Adds envelope.commandId s s' := by
  simp only [receive, steps_ok] at h
  obtain ⟨c, hc, -, h⟩ := h
  have hid := (receivedCommand_content hc).1
  split at h
  · simp only [steps_ok] at h
    obtain ⟨-, -, rfl⟩ := h
    exact .refl _ _
  · simp only [bind_eq_ok] at h
    obtain ⟨C, hC, h⟩ := h
    obtain ⟨hfresh, hput⟩ := addRow_ok hC
    rw [← hid]
    split at h
    · simp only [steps_ok] at h
      obtain ⟨s1, h1, -, rfl⟩ := h
      obtain ⟨O, D, rfl, -⟩ := enqueueCommandResult_ok h1
      exact .of_put hfresh hput rfl
    · simp only [steps_ok] at h
      obtain ⟨_, rfl, -, rfl⟩ := h
      exact .of_put hfresh hput rfl

section Dispatch

variable {d : Draws} {now : Time} {commandId correlationId commandType : String}
  {accountId : Uuid} {payload : Document} {priority : Int} {s s' : State} {inserted : Bool}

theorem dispatch_adds (h : dispatch d now commandId correlationId accountId
    commandType payload priority s = .ok (inserted, s')) : State.Adds commandId s s' := by
  simp only [dispatch, bind_eq_ok] at h
  obtain ⟨c, hc, h⟩ := h
  have hid := (Command.create_ok hc).1
  split at h
  · simp only [pure_eq_ok, Prod.mk.injEq] at h
    obtain ⟨-, rfl⟩ := h
    exact .refl _ _
  · simp only [steps_ok] at h
    obtain ⟨C, hC, -, rfl⟩ := h
    obtain ⟨hfresh, hput⟩ := addRow_ok hC
    rw [← hid]
    exact .of_put hfresh hput rfl

/-- Under a free id the Command is inserted. -/
theorem dispatch_inserts (hfree : s.commands.get? commandId = none)
    (h : dispatch d now commandId correlationId accountId
      commandType payload priority s = .ok (inserted, s')) : inserted = true := by
  simp only [dispatch, steps_ok, hfree] at h
  obtain ⟨-, -, -, -, rfl, -⟩ := h
  rfl

/-- Making a Command raises no `RuntimeError`. -/
theorem dispatch_avoids :
    Avoids (· = Failure.runtime message) (dispatch d now commandId correlationId
      accountId commandType payload priority s) := by
  unfold dispatch
  refine .bind (by simp [Command.create, Command.postInit]) fun c _ => ?_
  split
  · simp
  · simp [addRow]

end Dispatch

-- ==== the invariant

/-- The Command of a due time is there only once the due time is past it. -/
def Syncs.Ahead (strftime : Time → String) (S : Syncs) : Prop :=
  ∀ k due c, S.base.commands.get? (syncCommandId strftime k due) = some c →
    ∃ s, S.schedules.get? k = some s ∧ due < s.nextDueAt

/-- The Command of an activity is made when it leaves PENDING, and one of a
schedule when its due time passes it. -/
structure Reserved (strftime : Time → String) (M : Dispatchers) : Prop where
  syncs : SyncInv M.syncs
  activity : ∀ u c, M.syncs.base.commands.get? (activityCommandId u) = some c →
    ∃ a, M.activities.get? u = some a ∧ a.materializationStatus ≠ .pending
  schedule : ∀ k due c, M.syncs.base.commands.get? (syncCommandId strftime k due) = some c →
    ∃ s, M.syncs.schedules.get? k = some s ∧ due < s.nextDueAt

theorem SyncInv.rebase (h : SyncInv S) (hkept : ∀ f : Command, f.status.terminal = true →
      S.base.commands.get? f.commandId = some f → base.commands.get? f.commandId = some f) :
    SyncInv { S with base } := by
  have hkeeps : S.Keeps { S with base } := hkept
  exact ⟨h.owned, fun k k' d d' hd hd' hsame hlt =>
    hkeeps.finished (h.gated k k' d d' hd hd' hsame hlt)⟩

/-- A Command of another id changes nothing for the dispatchers. -/
theorem Reserved.adds (h : Reserved strftime M) {id : String}
    (hadds : State.Adds id M.syncs.base base) (hid : ¬ InternalId strftime id) :
    Reserved strftime { M with syncs := { M.syncs with base } } := by
  refine ⟨h.syncs.rebase hadds.kept, fun u c hc => ?_, fun k due c hc => ?_⟩
  · rcases hadds.only _ _ hc with hold | heq
    · exact h.activity u c hold
    · exact absurd (.inl ⟨u, heq.symm⟩) hid
  · rcases hadds.only _ _ hc with hold | heq
    · exact h.schedule k due c hold
    · exact absurd (.inr ⟨k, due, heq.symm⟩) hid

theorem Reserved.moves (h : Reserved strftime M) {next : State}
    (hmoves : M.syncs.base.OnlyMoves next) :
    Reserved strftime { M with syncs := { M.syncs with base := next } } := by
  have hold {id : String} {c : Command} (hc : next.commands.get? id = some c) :
      ∃ c0, M.syncs.base.commands.get? id = some c0 :=
    Option.isSome_iff_exists.mp (hmoves.1 id (Option.isSome_iff_exists.mpr ⟨c, hc⟩))
  refine ⟨h.syncs.rebase hmoves.2, fun u c hc => ?_, fun k due c hc => ?_⟩
  · obtain ⟨c0, hc0⟩ := hold hc
    exact h.activity u c0 hc0
  · obtain ⟨c0, hc0⟩ := hold hc
    exact h.schedule k due c0 hc0

open Dispatchers

theorem Reserved.generate (h : Reserved strftime M) {a : ActivityOccurrence}
    (hM : M.generate a = .ok M') : Reserved strftime M' := by
  simp only [Dispatchers.generate, steps_ok] at hM
  obtain ⟨activities, hadd, rfl⟩ := hM
  obtain ⟨hfresh, hput⟩ := addRow_ok hadd
  refine ⟨h.syncs, fun u c hc => ?_, h.schedule⟩
  obtain ⟨b, hb, hstatus⟩ := h.activity u c hc
  exact ⟨b, hput.get?_of_fresh hfresh hb, hstatus⟩

-- ==== materializing

section Materializing

variable {draws : Uuid → Draws} {now : Time} {a : ActivityOccurrence}

theorem updateMaterialization_put {marked : ActivityOccurrence}
    (h : M.updateMaterialization marked = .ok M') (ha : M.activities.get? a.id = some a)
    (hid : marked.id = a.id) :
    M'.syncs = M.syncs ∧ M'.plans = M.plans ∧ Put M.activities { a with
      materializationStatus := marked.materializationStatus
      commandId := marked.commandId
      materializationAt := marked.materializationAt
      materializationReason := marked.materializationReason } M'.activities := by
  simp only [updateMaterialization, hid, steps_ok, ha, Option.some.injEq] at h
  obtain ⟨record, rfl, -, activities, hupdate, rfl⟩ := h
  exact ⟨rfl, rfl, (updateRow_ok hupdate).2⟩

/-- A row that leaves PENDING, under Commands that are all accounted for. -/
theorem Reserved.marked (hsyncs : SyncInv M'.syncs)
    (hstatus : ∃ row, M'.activities.get? a.id = some row ∧ row.materializationStatus ≠ .pending)
    (hothers : ∀ k ≠ a.id, M'.activities.get? k = M.activities.get? k)
    (hactivity : ∀ u c, M'.syncs.base.commands.get? (activityCommandId u) = some c → u ≠ a.id →
      ∃ b, M.activities.get? u = some b ∧ b.materializationStatus ≠ .pending)
    (hschedule : M'.syncs.Ahead strftime) : Reserved strftime M' := by
  refine ⟨hsyncs, fun u c hc => ?_, hschedule⟩
  by_cases hu : u = a.id
  · subst hu
    exact hstatus
  · rw [hothers u hu]
    exact hactivity u c hc hu

/-- One activity of a batch; the others stay as they are. -/
theorem materializeOne_ok (h : Reserved strftime M) (ha : M.activities.get? a.id = some a)
    (hM : materializeOne lax draws now M a = .ok M') :
    Reserved strftime M' ∧ ∀ k ≠ a.id, M'.activities.get? k = M.activities.get? k := by
  have hskip {reason : String}
      (hM : M.updateMaterialization (a.markNonMaterializable reason now) = .ok M') :
      Reserved strftime M' ∧ ∀ k ≠ a.id, M'.activities.get? k = M.activities.get? k := by
    obtain ⟨hsyncs, -, hput⟩ := updateMaterialization_put hM ha rfl
    have hothers : ∀ k ≠ a.id, M'.activities.get? k = M.activities.get? k :=
      fun k hk => hput.get?_ne hk
    exact ⟨Reserved.marked (hsyncs ▸ h.syncs) ⟨_, hput.get?_self, fun h => by cases h⟩ hothers
      (fun u c hc _ => h.activity u c (hsyncs ▸ hc)) (hsyncs ▸ h.schedule), hothers⟩
  unfold materializeOne at hM
  split at hM
  · cases hM
  · cases hM
    exact ⟨h, fun _ _ => rfl⟩
  · exact hskip hM
  · split at hM
    · exact hskip hM
    · simp only [steps_ok, ensureCommand] at hM
      obtain ⟨M1, ⟨⟨inserted, base⟩, hdispatch, -, rfl⟩, hM⟩ := hM
      have hadds := dispatch_adds hdispatch
      obtain ⟨hsyncs, -, hput⟩ := updateMaterialization_put hM ha rfl
      have hothers : ∀ k ≠ a.id, M'.activities.get? k = M.activities.get? k :=
        fun k hk => hput.get?_ne hk
      refine ⟨Reserved.marked (by rw [hsyncs]; exact h.syncs.rebase hadds.kept)
        ⟨_, hput.get?_self, fun h => by cases h⟩ hothers
        (fun u c hc hu => ?_) fun k due c hc => ?_, hothers⟩
      · rw [hsyncs] at hc
        rcases hadds.only _ _ hc with hold | heq
        · exact h.activity u c hold
        · exact absurd (activityCommandId_injective heq) hu
      · rw [hsyncs] at hc ⊢
        rcases hadds.only _ _ hc with hold | heq
        · exact h.schedule k due c hold
        · exact absurd heq.symm (activity_ne_sync _ _ _)

/-- The error of an activity whose id is taken. -/
def activityConflict : Failure :=
  .runtime "scheduled activity command identity conflicts with another command"

theorem updateMaterialization_avoids {marked : ActivityOccurrence} :
    Avoids (· = Failure.runtime message) (M.updateMaterialization marked) := by
  unfold updateMaterialization
  refine .bind (by simp) fun record _ => .bind (by simp) fun _ _ => ?_
  refine .bind ?_ fun _ _ => by simp
  unfold updateRow
  split <;> simp

/-- A PENDING activity has no Command yet, so its id is free. -/
theorem materializeOne_avoids (h : Reserved strftime M) (ha : M.activities.get? a.id = some a)
    (hpending : a.materializationStatus = .pending) :
    Avoids (· = activityConflict) (materializeOne lax draws now M a) := by
  unfold materializeOne
  split
  · simp [activityConflict]
  · simp
  · exact updateMaterialization_avoids
  · split
    · exact updateMaterialization_avoids
    · refine .bind ?_ fun _ _ => updateMaterialization_avoids
      refine .bind dispatch_avoids fun result hdispatch => ?_
      have hfree : M.syncs.base.commands.get? (activityCommandId a.id) = none := by
        cases hc : M.syncs.base.commands.get? (activityCommandId a.id) with
        | none => rfl
        | some c =>
          obtain ⟨b, hb, hstatus⟩ := h.activity a.id c hc
          obtain rfl := Option.mem_unique ha hb
          exact absurd hpending hstatus
      have hinserted : result.1 = true := dispatch_inserts hfree hdispatch
      simp [hinserted]

theorem duePending_spec (M : Dispatchers) (now : Time) (limit : Nat) (locked : Uuid → Bool) :
    ((M.duePending now limit locked).map (·.id)).Nodup
      ∧ ∀ a ∈ M.duePending now limit locked, M.activities.get? a.id = some a
        ∧ a.materializationStatus = .pending := by
  constructor
  · unfold duePending
    refine ((List.take_sublist _ _).map _).nodup ?_
    rw [((List.perm_insertionSort occurrenceBefore _).map _).nodup_iff]
    exact (List.filter_sublist.map _).nodup M.activities.keysNodup
  · intro a ha
    have hmem := (List.mem_insertionSort occurrenceBefore).mp (List.mem_of_mem_take ha)
    simp only [List.mem_filter, checks_hold] at hmem
    exact ⟨get?_eq_some_iff.mpr ⟨hmem.1, rfl⟩, hmem.2.1.1.2⟩

/-- What holds in the middle of a batch: the activities to come are still
as they were selected. -/
def Materializing (strftime : Time → String) (xs : List ActivityOccurrence) (M : Dispatchers) :
    Prop :=
  Reserved strftime M ∧ (xs.map (·.id)).Nodup
    ∧ ∀ a ∈ xs, M.activities.get? a.id = some a ∧ a.materializationStatus = .pending

theorem Materializing.step {x : ActivityOccurrence} {xs : List ActivityOccurrence}
    (h : Materializing strftime (x :: xs) M)
    (hM : materializeOne lax draws now M x = .ok M') :
    Materializing strftime xs M' := by
  obtain ⟨hR, hids, hrows⟩ := h
  rw [List.map_cons, List.nodup_cons] at hids
  obtain ⟨hR', hothers⟩ := materializeOne_ok hR (hrows x (.head _)).1 hM
  refine ⟨hR', hids.2, fun a ha => ?_⟩
  obtain ⟨hrow, hpending⟩ := hrows a (.tail _ ha)
  refine ⟨(hothers a.id fun heq => hids.1 ?_).trans hrow, hpending⟩
  exact heq ▸ List.mem_map_of_mem ha

theorem Reserved.materializing (h : Reserved strftime M) (limit : Nat) (locked : Uuid → Bool) :
    Materializing strftime (M.duePending now limit locked) M :=
  ⟨h, duePending_spec M now limit locked⟩

theorem materializeDue_ok (h : Reserved strftime M)
    (hM : materializeDue lax draws now limit locked M = .ok M') :
    Reserved strftime M' := by
  simp only [materializeDue, steps_ok] at hM
  exact (foldlM_invariant (Materializing strftime) (fun _ _ _ _ hP hone => hP.step hone)
    (h.materializing limit.toNat locked) hM.2).1

theorem materializeDue_avoids (h : Reserved strftime M) :
    Avoids (· = activityConflict) (materializeDue lax draws now limit locked M) := by
  refine .bind (by simp [activityConflict]) fun _ _ => ?_
  exact Avoids.foldlM (Materializing strftime) (fun _ _ _ _ hP hone => hP.step hone)
    (fun a _ _ hP => materializeOne_avoids hP.1 (hP.2.2 a (.head _)).1
      (hP.2.2 a (.head _)).2) (h.materializing limit.toNat locked)

end Materializing

-- ==== dispatching

section Scheduling

variable {now : Time} {d : SyncDraws} {s s' : ConversationSyncSchedule} {base₀ : State}

/-- The error of a due time whose id is taken. -/
def syncConflict : Failure :=
  .runtime "conversation sync deterministic Command identity conflicts"

open Syncs

theorem dispatchOne_adds (h : Syncs.dispatchOne strftime d now S s = .ok S') :
    State.Adds (syncCommandId strftime s.id s.nextDueAt) S.base S'.base := by
  simp only [Syncs.dispatchOne, bind_eq_ok] at h
  obtain ⟨may, -, h⟩ := h
  split at h
  · simp only [Syncs.dispatchSchedule, Syncs.ensureCommand, steps_ok] at h
    obtain ⟨S1, ⟨⟨inserted, base⟩, hdispatch, -, rfl⟩, ⟨dispatch, next⟩, -, S2, h2, h3⟩ := h
    have hbase3 := (updateSchedule_ok h3).2.2.2
    have hbase2 : S2.base = base := by
      unfold Syncs.addDispatch at h2
      split at h2
      · simp only [steps_ok] at h2
        obtain ⟨-, rfl⟩ := h2
        rfl
      · simp only [steps_ok] at h2
        obtain ⟨dispatches, -, rfl⟩ := h2
        rfl
    rw [hbase3, hbase2]
    exact dispatch_adds hdispatch
  · cases h
    exact .refl _ _

/-- The due time is ahead of every Command of the schedule. -/
theorem dispatchOne_avoids (hahead : S.Ahead strftime) (hs : S.schedules.get? s.id = some s) :
    Avoids (· = syncConflict) (dispatchOne strftime d now S s) := by
  have hfree : S.base.commands.get? (syncCommandId strftime s.id s.nextDueAt) = none := by
    cases hc : S.base.commands.get? (syncCommandId strftime s.id s.nextDueAt) with
    | none => rfl
    | some c =>
      obtain ⟨r, hr, hlt⟩ := hahead _ _ c hc
      obtain rfl := Option.mem_unique hs hr
      exact absurd hlt (Int.lt_irrefl _)
  refine .bind ?_ fun may _ => avoids_ite.mpr ⟨fun _ => ?_, fun _ => by simp⟩
  · unfold mayDispatch
    split <;> simp [syncConflict]
  refine .bind ?_ fun S1 _ => .bind ?_ fun result _ => .bind ?_ fun S2 _ => ?_
  · refine .bind dispatch_avoids fun result hdispatch => ?_
    have hinserted : result.1 = true := dispatch_inserts hfree hdispatch
    simp [hinserted]
  · simp [ConversationSyncSchedule.dispatch, syncConflict]
  · unfold addDispatch
    split <;> simp [addRow, syncConflict]
  · unfold updateSchedule
    split
    · simp [syncConflict]
    · unfold updateRow
      split <;> simp [syncConflict]

/-- What holds in the middle of a batch: the schedules to come are still as
they were selected. -/
structure Scheduling (strftime : Time → String) (base₀ : State)
    (xs : List ConversationSyncSchedule) (S : Syncs) : Prop where
  inv : SyncInv S
  ahead : S.Ahead strftime
  others : ∀ u c, S.base.commands.get? (activityCommandId u) = some c →
    base₀.commands.get? (activityCommandId u) = some c
  nodup : (xs.map (·.id)).Nodup
  stored : ∀ x ∈ xs, S.schedules.get? x.id = some x

/-- A dispatched schedule moves past its due time. -/
theorem Scheduling.step (hstrftime : Function.Injective strftime)
    {xs : List ConversationSyncSchedule} (h : Scheduling strftime base₀ (s :: xs) S)
    (hone : Syncs.dispatchOne strftime d now S s = .ok S') :
    Scheduling strftime base₀ xs S' := by
  have hs := h.stored s (.head _)
  have hadds := dispatchOne_adds hone
  have hids := List.nodup_cons.mp h.nodup
  have hothers : ∀ u c, S'.base.commands.get? (activityCommandId u) = some c →
      base₀.commands.get? (activityCommandId u) = some c := by
    intro u c hc
    rcases hadds.only _ _ hc with hold | heq
    · exact h.others u c hold
    · exact absurd heq (activity_ne_sync _ _ _)
  rcases dispatchOne_ok h.inv hs hone with rfl | ⟨s', dispatch, hdispatched⟩
  · exact ⟨h.inv, h.ahead, h.others, hids.2, fun x hx => h.stored x (.tail _ hx)⟩
  · have hlate : s.nextDueAt < s'.nextDueAt :=
      Int.lt_of_le_of_lt hdispatched.due hdispatched.now_lt_next
    refine ⟨hdispatched.inv h.inv, fun k due c hc => ?_, hothers, hids.2, fun x hx => ?_⟩
    · rcases hadds.only _ _ hc with hold | heq
      · obtain ⟨r, hr, hlt⟩ := h.ahead k due c hold
        by_cases hk : k = s.id
        · subst hk
          obtain rfl := Option.mem_unique hs hr
          exact ⟨s', hdispatched.schedule_self, Int.lt_trans hlt hlate⟩
        · exact ⟨r, (hdispatched.schedule_ne hk).trans hr, hlt⟩
      · obtain ⟨rfl, rfl⟩ := syncCommandId_injective hstrftime heq
        exact ⟨s', hdispatched.schedule_self, hlate⟩
    · refine (hdispatched.schedule_ne fun heq => hids.1 ?_).trans (h.stored x (.tail _ hx))
      exact List.mem_map.mpr ⟨x, hx, heq⟩

theorem Scheduling.start (hS : SyncInv S) (hahead : S.Ahead strftime) (limit : Nat)
    (locked : Uuid → Bool) :
    Scheduling strftime S.base (S.dueForUpdate now limit locked) S :=
  ⟨hS, hahead, fun _ _ h => h, (dueForUpdate_spec S now limit locked).1,
    (dueForUpdate_spec S now limit locked).2⟩

theorem dispatchDue_ok (hstrftime : Function.Injective strftime) (hS : SyncInv S)
    (hahead : S.Ahead strftime) (h : dispatchDue strftime d now limit locked S = .ok S') :
    Scheduling strftime S.base [] S' := by
  simp only [dispatchDue, steps_ok] at h
  exact foldlM_invariant (Scheduling strftime S.base)
    (fun _ _ _ _ hP hone => hP.step hstrftime hone) (.start hS hahead limit.toNat locked) h.2

theorem dispatchDue_avoids (hstrftime : Function.Injective strftime) (hS : SyncInv S)
    (hahead : S.Ahead strftime) :
    Avoids (· = syncConflict) (dispatchDue strftime d now limit locked S) := by
  refine .bind (by simp [syncConflict]) fun _ _ => ?_
  exact Avoids.foldlM (Scheduling strftime S.base) (fun _ _ _ _ hP hone => hP.step hstrftime hone)
    (fun s _ _ hP => dispatchOne_avoids hP.ahead (hP.stored s (.head _)))
    (.start hS hahead limit.toNat locked)

end Scheduling

-- ==== the runs

/-- No received Command takes an id the dispatchers form. -/
def OutsideIds (strftime : Time → String) (_ : Dispatchers) (e : DispatcherEvent) : Prop :=
  ∀ d now envelope, e = .receive d now envelope → ¬ InternalId strftime envelope.commandId

theorem Reserved.resync (h : Reserved strftime M) (hinv : SyncInv S) (hahead : S.Ahead strftime)
    (hothers : ∀ u c, S.base.commands.get? (activityCommandId u) = some c →
      M.syncs.base.commands.get? (activityCommandId u) = some c) :
    Reserved strftime { M with syncs := S } :=
  ⟨hinv, fun u c hc => h.activity u c (hothers u c hc), hahead⟩

theorem Reserved.scheduled (h : Reserved strftime M) {e : SyncEvent}
    (hen : (conversationSyncs cfg strftime).enabled M.syncs e)
    (hbase : (M.syncs.after cfg strftime e).base = M.syncs.base)
    (hbatch : ∀ d now limit locked, e ≠ .dispatchDue d now limit locked) :
    Reserved strftime { M with syncs := M.syncs.after cfg strftime e } := by
  obtain ⟨hinv, hsteps⟩ := h.syncs.after hen
  refine h.resync hinv (fun k due c hc => ?_) fun u c hc => hbase ▸ hc
  rw [hbase] at hc
  obtain ⟨s, hs, hlt⟩ := h.schedule k due c hc
  have hid : s.id = k := key_of_get? hs
  rcases hsteps s (hid.symm ▸ hs) with ⟨⟨s', hs', hnext, -⟩, -⟩ | ⟨d, now, limit, locked, heq, -⟩
  · exact ⟨s', hid ▸ hs', hnext ▸ hlt⟩
  · exact absurd heq (hbatch d now limit locked)

/-- Every event keeps the ids reserved. -/
theorem Reserved.after (hstrftime : Function.Injective strftime) (h : Reserved strftime M)
    (hen : (dispatchers cfg lax strftime).enabled M e) (houtside : OutsideIds strftime M e) :
    Reserved strftime (M.after cfg lax strftime e) := by
  cases e with
  | receive d now envelope =>
    simp only [after]
    split
    · rename_i hreceive
      exact h.adds (receive_adds hreceive) (houtside d now envelope rfl)
    · exact h
  | others next => exact h.moves (hen next rfl)
  | generate activity =>
    simp only [after]
    cases hM : M.generate activity with
    | error => exact h
    | ok M' => exact h.generate hM
  | setPlan id status => exact ⟨h.syncs, h.activity, h.schedule⟩
  | addSchedule schedule =>
    refine h.scheduled (fun _ h => by cases h) ?_ fun _ _ _ _ h => by cases h
    simp only [Syncs.after]
    cases hS : M.syncs.add schedule with
    | error => rfl
    | ok S' =>
      simp only [Syncs.add, steps_ok] at hS
      obtain ⟨-, -, -, -, schedules, -, rfl⟩ := hS
      rfl
  | transitionSchedule id target at_ reason =>
    refine h.scheduled (fun _ h => by cases h) ?_ fun _ _ _ _ h => by cases h
    simp only [Syncs.after]
    cases hS : M.syncs.transition id target at_ reason with
    | error => rfl
    | ok S' =>
      obtain ⟨_, _, -, -, -, -, -, -, -, -, hbase⟩ := transition_ok hS
      exact hbase
  | materializeDue draws now limit locked =>
    simp only [after]
    cases hM : materializeDue lax draws now limit locked M with
    | error => exact h
    | ok M' => exact materializeDue_ok h hM
  | dispatchDue d now limit locked =>
    simp only [after, Syncs.after]
    cases hS : Syncs.dispatchDue strftime d now limit locked M.syncs with
    | error => exact h
    | ok S' =>
      have hdone := dispatchDue_ok hstrftime h.syncs h.schedule hS
      exact h.resync hdone.inv hdone.ahead hdone.others

theorem Reserved.reachable (hstrftime : Function.Injective strftime)
    (h : (dispatchers cfg lax strftime).Reachable (OutsideIds strftime) M) :
    Reserved strftime M := by
  refine h.invariant ?_ fun M e hM hen houtside => hM.after hstrftime hen houtside
  rintro M ⟨W, rfl⟩
  exact ⟨⟨fun _ _ h => (by cases h), fun _ _ _ _ h => (by cases h)⟩, fun _ _ h => (by cases h),
    fun _ _ _ h => (by cases h)⟩

/-- In every run whose received Commands all have ids of their own, neither
dispatcher finds its id taken, whenever it runs. -/
theorem internal_dispatch_unbroken (cfg : Settings) (lax : Json → Option Int)
    (strftime : Time → String) (hstrftime : Function.Injective strftime) (M : Dispatchers)
    (h : (dispatchers cfg lax strftime).Reachable (OutsideIds strftime) M) :
    (∀ draws now limit locked,
        Dispatchers.materializeDue lax draws now limit locked M ≠ .error activityConflict)
      ∧ ∀ d now limit locked,
        Syncs.dispatchDue strftime d now limit locked M.syncs ≠ .error syncConflict := by
  have hM := Reserved.reachable hstrftime h
  refine ⟨fun draws now limit locked hraised => ?_, fun d now limit locked hraised => ?_⟩
  · exact materializeDue_avoids hM _ hraised rfl
  · exact dispatchDue_avoids hstrftime hM.syncs hM.schedule _ hraised rfl

-- ==== sample

namespace DispatcherSample

open Sample

/-- `lax` integers that are integers. -/
def strictInt : Json → Option Int
  | .int n => some n
  | _ => none

/-- A due activity of plan 5. -/
def browsing (id templateId : Uuid) : ActivityOccurrence where
  id := id
  accountId := 1
  planId := 5
  templateId := templateId
  templateRevision := 1
  activityTypeSnapshot := "threads.browser.feed.browse"
  configurationSnapshot := [("max_items", .int 3)]
  priority := .normal
  dueAt := 10
  createdAt := 0
  materializationStatus := .pending
  commandId := none
  materializationAt := none
  materializationReason := none

/-- Due times in unary. -/
def unary (t : Time) : String :=
  String.ofList (List.replicate t.natAbs (if t < 0 then '-' else '+'))

theorem unary_injective : Function.Injective unary := by
  have hint : ∀ t t' : Int, t.natAbs = t'.natAbs → (t = 0 ∨ (t < 0 ↔ t' < 0)) → t = t' := by
    omega
  intro t t' h
  have hlist : List.replicate t.natAbs (if t < 0 then '-' else '+')
      = List.replicate t'.natAbs (if t' < 0 then '-' else '+') := String.ofList_injective h
  rw [List.replicate_inj] at hlist
  refine hint t t' hlist.1 (hlist.2.imp Int.natAbs_eq_zero.mp fun hsign => ?_)
  by_cases ht : t < 0 <;> by_cases ht' : t' < 0 <;> simp [ht, ht'] at hsign ⊢

/-- The machine of the sample. -/
def sampleDispatchers : Machine Dispatchers DispatcherEvent :=
  dispatchers settings strictInt unary

/-- A Command is received, two activities are generated, and the batch
runs. -/
def tick (commandId : String) : List DispatcherEvent :=
  [.receive (draws 1) 0 (browse commandId 0 none), .setPlan 5 .active, .generate (browsing 7 11),
    .generate (browsing 8 12)]

/-- Nothing is stored yet. -/
def start : Dispatchers := ⟨⟨.initial world, .empty _, .empty _⟩, .empty _, fun _ => none⟩

/-- The identifiers of a batch, by activity. -/
def batchDraws (id : Uuid) : Draws := draws id.toNat

/-- The batch. -/
def batch : DispatcherEvent := .materializeDue batchDraws 20 100 fun _ => false

/-- What the batch raises. -/
def raisedBy (M : Dispatchers) : Option Failure :=
  match Dispatchers.materializeDue strictInt batchDraws 20 100 (fun _ => false) M with
  | .ok _ => none
  | .error e => some e

/-- What becomes of an activity. -/
def activityStatusAfter (M : Dispatchers) (id : Uuid) : Option MaterializationStatus :=
  ((sampleDispatchers.step M batch).activities.get? id).map (·.materializationStatus)

/-- A check that nothing else happens. -/
def noOthers (_ : Dispatchers) : DispatcherEvent → Bool
  | .others _ => false
  | _ => true

/-- A check that received Commands have the sample's id. -/
def ownIds (_ : Dispatchers) : DispatcherEvent → Bool
  | .receive _ _ envelope => decide (envelope.commandId = "activity:mine")
  | _ => true

theorem enabled_of_noOthers {M : Dispatchers} (h : noOthers M e = true) :
    sampleDispatchers.enabled M e := by
  rintro next rfl
  cases h

/-- The text after the colon is too short for a UUID's. -/
theorem mine_outside : ¬ InternalId unary "activity:mine" := by
  rintro (⟨u, h⟩ | ⟨k, due, h⟩)
  · have hrest : "mine" = u.str := (String.append_right_inj "activity:").mp h
    exact absurd (hrest ▸ Uuid.str_length u) (by decide)
  · exact activity_ne_sync "mine" k due h

theorem outsideIds_of_ownIds {M : Dispatchers} (h : ownIds M e = true) : OutsideIds unary M e := by
  intro d now envelope he
  subst he
  rw [of_decide_eq_true h]
  exact mine_outside

end DispatcherSample

open DispatcherSample Sample in
/-- A received Command takes the id of activity 7: the batch raises, and
activity 8 is not materialized either. With another id it is. -/
theorem received_id_breaks_batch : (browse (activityCommandId 7) 0 none).headerAccepts = true
      ∧ sampleDispatchers.Reachable (fun _ _ => True)
        (sampleDispatchers.runs (tick (activityCommandId 7)) start)
      ∧ raisedBy (sampleDispatchers.runs (tick (activityCommandId 7)) start) = some activityConflict
      ∧ activityStatusAfter (sampleDispatchers.runs (tick (activityCommandId 7)) start) 8
        = some .pending
      ∧ activityStatusAfter (sampleDispatchers.runs (tick "activity:mine") start) 8
        = some .materialized := by
  refine ⟨by decide, ?_, by decide, by decide, by decide⟩
  exact Machine.Reachable.runs (fun _ _ _ h => ⟨enabled_of_noOthers h, trivial⟩)
    (.init ⟨world, rfl⟩)
    (by decide :
      sampleDispatchers.checks noOthers (tick (activityCommandId 7)) start = true)

open DispatcherSample Sample in
theorem internal_dispatch_unbroken_outside :
    activityStatusAfter (sampleDispatchers.runs (tick "activity:mine") start) 7 = some .materialized
      ∧ Dispatchers.materializeDue strictInt batchDraws 20 100 (fun _ => false)
        (sampleDispatchers.runs (tick "activity:mine") start) ≠ .error activityConflict := by
  have hrun : sampleDispatchers.Reachable (OutsideIds unary)
      (sampleDispatchers.runs (tick "activity:mine") start) :=
    Machine.Reachable.runs
      (fun M e _ h => ⟨enabled_of_noOthers (Bool.and_eq_true_iff.mp h).1,
        outsideIds_of_ownIds (Bool.and_eq_true_iff.mp h).2⟩)
      (.init ⟨world, rfl⟩)
      (by decide : sampleDispatchers.checks (fun M e => noOthers M e && ownIds M e)
        (tick "activity:mine") start = true)
  exact ⟨by decide, (internal_dispatch_unbroken _ _ _ unary_injective _ hrun).1 _ _ _ _⟩

end ThreadsPlatform
