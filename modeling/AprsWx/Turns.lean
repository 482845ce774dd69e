import AprsWx.Daemon
import AprsWx.Lib.Fuel

/-!
# The turns of the loops

Each turn of a loop uses an answer of the script, so the answers that are left bound the turns:
no loop is cut off for want of fuel, and a run is as long as its script lets it be.

* `getPacketLoop_fuel`, `findServer_fuel`: the loops of a connection.
* `packetLoop_fuel`, `mainLoop_fuel`: the loops of `main`.
-/

namespace AprsWx

open Double Prog

variable {F : Type}

/-! ## The connection -/

/-- The answers that are left. -/
def Net.left (s : Net F) : Nat := s.script.length

theorem Net.Advances.left {s t : Net F} (advances : s.Advances t) : t.left ≤ s.left :=
  advances.script.length_le

theorem Net.Reads.left {s t : Net F} (reads : s.Reads t) : t.left ≤ s.left :=
  reads.script.length_le

/-- A call uses its answer. -/
theorem answer_takes {α : Type} (f : Ext → Option α) : Takes (Net.left (F := F)) 1 (answer f) := by
  intro s
  refine ends_answer_of (fun e a script more _ => ?_) (Nat.le_refl _)
  show script.length + 1 ≤ s.script.length
  rw [more]
  exact Nat.le_refl _

theorem reads_takes {α : Type} {x : NetM F α} (reads : Moving Net.Reads x) : Takes Net.left 0 x :=
  reads.takes fun _ _ reads => reads.left

theorem advances_takes {α : Type} {x : NetM F α} (advances : Moving Net.Advances x) :
    Takes Net.left 0 x := advances.takes fun _ _ advances => advances.left

theorem modifySock_takes (f : AprsIs F → AprsIs F) : Takes Net.left 0 (modifySock f) :=
  .modify fun _ => rfl

theorem select_takes (maxWait : Nat) : Takes (Net.left (F := F)) 1 (select maxWait) := by
  unfold select
  refine .later (reads_takes getSock_reads) fun sock => .ite .throw ?_
  refine .bind (answer_takes _) fun r => .ite (.bind (modifySock_takes _) fun _ => ?_) .pure
  exact .bind (reads_takes getSock_reads) fun _ => .pure

/-- The loop of `getPacket` returns after one call of `select` at least. -/
theorem getPacketLoop_takes (fuel : Nat) (stringBuf : List Char) (buf : Option Char) :
    Takes (Net.left (F := F)) 1 (getPacketLoop fuel stringBuf buf) := by
  induction fuel generalizing stringBuf buf with
  | zero => exact .throw
  | succ fuel ih =>
    have next := fun stringBuf buf => (ih stringBuf buf).weaken (Nat.zero_le 1)
    unfold getPacketLoop
    refine .bind (select_takes 60) fun n => .ite ?_ (.ite (modifySock_takes _) (next _ _))
    refine .bind (modifySock_takes _) fun _ => .bind (reads_takes (readChar_reads buf)) fun c => ?_
    exact .ite (modifySock_takes _) (next _ _)

theorem getPacket_takes : Takes (Net.left (F := F)) 1 getPacket := by
  refine .later .get fun s => .bind (getPacketLoop_takes _ _ _) fun _ => ?_
  refine .bind (reads_takes getSock_reads) fun _ => .bind (.modify fun _ => rfl) fun _ => .pure

theorem connect_takes (prefs : List Nat) : Takes (Net.left (F := F)) 1 (connect prefs) := by
  unfold connect findPeerInfo
  refine .bind (.bind (answer_takes _) fun r => ?_) fun _ => ?_
  · cases r with
    | none => exact .throw
    | some peers =>
      exact .bind (modifySock_takes _) fun _ => advances_takes (tryPrefs_advances _ _)
  · refine .bind (modifySock_takes _) fun _ => .bind (reads_takes getSock_reads) fun _ => ?_
    exact .bind (.modify fun _ => rfl) fun _ => .pure

section Connection

variable {fuel fuel' : Nat} {s : Net F}

theorem getPacketLoop_fuel (enough : s.script.length < fuel) (enough' : s.script.length < fuel')
    (stringBuf : List Char) (buf : Option Char) :
    (getPacketLoop fuel stringBuf buf).run s = (getPacketLoop fuel' stringBuf buf).run s := by
  refine agree_of_turn (μ := Net.left) (n := s.script.length + 1)
    (fun fuel (i : List Char × Option Char) => getPacketLoop fuel i.1 i.2)
    ?_ enough enough' (stringBuf, buf) s (Nat.lt_succ_self _)
  intro fuel fuel' n next i
  unfold getPacketLoop
  refine .step (select_takes 60) fun r => .ite ?_ (.ite .refl (next (i.1, i.2)))
  refine .bind (modifySock_takes _) fun _ => .bind (reads_takes (readChar_reads i.2)) fun c => ?_
  exact .ite .refl (next (appendChar i.1 c, some c))

theorem findServer_fuel (enough : s.script.length < fuel) (enough' : s.script.length < fuel') :
    (findServer fuel).run s = (findServer fuel').run s := by
  refine agree_of_turn (μ := Net.left) (n := s.script.length + 1)
    (fun fuel (_ : Unit) => findServer fuel) ?_ enough enough' () s (Nat.lt_succ_self _)
  intro fuel fuel' n next _
  unfold findServer
  refine .bind (reads_takes getSock_reads) fun sock => .ite .refl ?_
  refine .step (connect_takes _) fun fd => .ite .refl ?_
  refine .bind (advances_takes getPacket_advances) fun _ => .bind (modifySock_takes _) fun _ => ?_
  refine .bind (reads_takes getSock_reads) fun _ => .ite ?_ (next ())
  exact .bind (advances_takes close_advances) fun _ => next ()

end Connection

/-! ## The daemon -/

section Daemon

variable [CDouble F]

/-- The answers that are left. -/
def Main.left (s : Main F) : Nat := s.net.left

omit [CDouble F] in
theorem onNet_takes {α : Type} {k : Nat} {x : NetM F α} (takes : Takes Net.left k x) :
    Takes Main.left k (onNet x) := takes.zoom fun _ => rfl

omit [CDouble F] in
theorem Handling.takes {α : Type} {x : MainM F α} (handling : Handling x) : Takes Main.left 0 x :=
  Moves.takes handling fun _ _ handles => handles.left

theorem packetLoop_takes (config : Config F) (fuel packetCount : Nat) :
    Takes Main.left 0 (packetLoop config fuel packetCount) := by
  induction fuel generalizing packetCount with
  | zero => exact .throw
  | succ fuel ih =>
    unfold packetLoop
    refine .bind (value_pushes _ _).handles.takes fun _ => .ite ?_ .pure
    refine .bind (onNet_takes (advances_takes getPacket_advances)) fun _ => .ite ?_ (ih _)
    exact .bind (handlePacket_handles _).takes fun _ => .ite .pure (ih _)

theorem useSock_takes (config : Config F) : Takes Main.left 0 (useSock config) := by
  unfold useSock receivePackets
  refine .bind (onNet_takes (advances_takes openConnection_advances)) fun opened => ?_
  refine .bind (.ite (.bind .get fun _ => packetLoop_takes _ _ _) .pure) fun returns => ?_
  exact .ite .pure (.bind (onNet_takes (advances_takes close_advances)) fun _ => .pure)

omit [CDouble F] in
theorem destroyed_left (s : Main F) : s.destroyed.left ≤ s.left := (destroyed_quiet s).net.left

theorem session_takes (config : Config F) (filter : List Char) :
    Takes Main.left 0 (session config filter) := by
  refine .bind (value_pushes _ _).handles.takes fun _ => .bind (value_pushes _ _).handles.takes fun _ => ?_
  refine .bind (ask_pushes _).handles.takes fun now => .bind (onNet_takes (modifySock_takes _)) fun _ => ?_
  intro s
  rw [ends_andFinally]
  refine (useSock_takes config s).mono ?_ ?_
  · intro returns t less
    exact (destroyed_left t).trans less
  · intro e t less
    split
    · exact (destroyed_left t).trans less
    · exact less

variable {fuel fuel' : Nat} {s : Main F}

theorem packetLoop_fuel (config : Config F) (enough : s.net.script.length < fuel)
    (enough' : s.net.script.length < fuel') (packetCount : Nat) :
    (packetLoop config fuel packetCount).run s = (packetLoop config fuel' packetCount).run s := by
  refine agree_of_turn (μ := Main.left) (n := s.net.script.length + 1) (packetLoop config)
    ?_ enough enough' packetCount s (Nat.lt_succ_self _)
  intro fuel fuel' n next packetCount
  unfold packetLoop
  refine .bind (value_pushes _ _).handles.takes fun rate => .ite ?_ .refl
  refine .step (onNet_takes getPacket_takes) fun mPacket => .ite ?_ (next rate)
  exact .bind (handlePacket_handles config).takes fun returns => .ite .refl (next (packetCount + 1))

theorem mainLoop_fuel (config : Config F) (filter : List Char)
    (enough : s.net.script.length < fuel) (enough' : s.net.script.length < fuel') :
    (mainLoop config filter fuel).run s = (mainLoop config filter fuel').run s := by
  refine agree_of_turn (μ := Main.left) (n := s.net.script.length + 1)
    (fun fuel (_ : Unit) => mainLoop config filter fuel) ?_ enough enough' () s
    (Nat.lt_succ_self _)
  intro fuel fuel' n next _
  unfold mainLoop
  refine .step (onNet_takes (answer_takes _)) fun running => .ite ?_ .refl
  exact .bind (session_takes config filter) fun returns => .ite .refl (next ())

end Daemon

end AprsWx
