/-
FtMmi.MessageHandle.DisplayLayout — the way of a display layout from a
client (`UpdateDisplayInfo`, `PackDisplayData` in `input_manager_impl.cpp`)
to the server (`OnDisplayInfo` in `server_msg_handler.cpp`).

The layout is here with all that is packed; a name is the list of its
bytes, and the direction is the number it is on the wire. A local variable
that the source leaves uninitialised stands as 0: what it holds is not used
when a read fails.

`layoutSurvives_iff` is about one call on a connection whose earlier frames
have been handled: what the kernel accepts arrives in pieces, and the server
applies the layout if and only if packing it and `SendMsg` have succeeded.
It says for which layouts and kernels this is so.
-/
import FtMmi.Network.PacketFields
import FtMmi.Server.Receiver
import FtMmi.Socket.FrameAlignment

namespace FtMmi.MessageHandle

open FtMmi.Lib
open FtMmi.Network
open FtMmi.Server
open FtMmi.Socket

/-! ## The layout -/

structure RectData where
  x : Int32
  y : Int32
  width : Int32
  height : Int32
  deriving DecidableEq, Repr

instance : ByteImage RectData :=
  .ofLeftInverse (fun r => (r.x, r.y, r.width, r.height)) (fun p => ⟨p.1, p.2.1, p.2.2.1, p.2.2.2⟩)
    fun _ => rfl

structure WindowData where
  id : Int32
  pid : Int32
  uid : Int32
  area : RectData
  defaultHotAreas : List RectData
  pointerHotAreas : List RectData
  agentWindowId : Int32
  flags : UInt32
  deriving DecidableEq, Repr

structure DisplayData where
  id : Int32
  x : Int32
  y : Int32
  width : Int32
  height : Int32
  name : List UInt8
  uniq : List UInt8
  direction : Int32
  deriving DecidableEq, Repr

structure DisplayGroupData where
  width : Int32
  height : Int32
  focusWindowId : Int32
  windowsInfo : List WindowData
  displaysInfo : List DisplayData
  deriving DecidableEq, Repr

/-- `MAX_HOTAREA_COUNT` -/
def maxHotareaCount : Nat := 10

/-! ## The client -/

/-- The checks of `UpdateDisplayInfo`. -/
def acceptsDisplayInfo (group : DisplayGroupData) : Bool :=
  !group.displaysInfo.isEmpty &&
    group.windowsInfo.all fun item =>
      !(decide (maxHotareaCount < item.defaultHotAreas.length) ||
        decide (maxHotareaCount < item.pointerHotAreas.length) ||
        item.defaultHotAreas.isEmpty || item.pointerHotAreas.isEmpty)

def hotAreas : FieldType := .vector (.fixed RectData)

def pushWindow (item : WindowData) : PacketM Unit := do
  push item.id
  push item.pid
  push item.uid
  push item.area
  pushField hotAreas item.defaultHotAreas
  pushField hotAreas item.pointerHotAreas
  push item.agentWindowId
  push item.flags

def packWindowInfo (windowsInfo : List WindowData) : PacketM Int := do
  push (UInt32.ofNat windowsInfo.length)
  forM windowsInfo pushWindow
  checkRWError

def pushDisplay (item : DisplayData) : PacketM Unit := do
  push item.id
  push item.x
  push item.y
  push item.width
  push item.height
  pushField .string item.name
  pushField .string item.uniq
  push item.direction

def packDisplayInfo (displaysInfo : List DisplayData) : PacketM Int := do
  push (UInt32.ofNat displaysInfo.length)
  forM displaysInfo pushDisplay
  checkRWError

def packDisplayData (group : DisplayGroupData) : PacketM Int := do
  push group.width
  push group.height
  push group.focusWindowId
  if (← rwError) then pure retErr
  else if (← packWindowInfo group.windowsInfo) = retErr then pure retErr
  else packDisplayInfo group.displaysInfo

/-- `MmiMessageId::DISPLAY_INFO` -/
def displayInfoMsg : Int32 := 6

/-- The packet of `SendDisplayInfo`, and what `PackDisplayData` returns. -/
def displayPacket (group : DisplayGroupData) : Int × NetPacket :=
  let r := (packDisplayData group).run (NetPacket.create displayInfoMsg).toStreamBuffer
  (r.1, { r.2 with msgId := displayInfoMsg })

/-- `UpdateDisplayInfo`: if packing and sending succeed, and what the kernel
accepts. -/
def updateDisplayInfo (build : Build) (fd : Int) (outcome : Nat → SendOutcome)
    (group : DisplayGroupData) : Bool × List UInt8 :=
  if !acceptsDisplayInfo group then (false, [])
  else
    let r := displayPacket group
    if r.1 = retErr then (false, [])
    else
      let sent := UDSClient.sendMsg build fd outcome r.2
      (sent.result, sent.accepted)

/-! ## The server -/

def pullWindow : PacketM WindowData := do
  let id ← pull (0 : Int32)
  let pid ← pull (0 : Int32)
  let uid ← pull (0 : Int32)
  let area ← pull (⟨0, 0, 0, 0⟩ : RectData)
  let defaultHotAreas ← pullField hotAreas
  let pointerHotAreas ← pullField hotAreas
  let agentWindowId ← pull (0 : Int32)
  let flags ← pull (0 : UInt32)
  pure { id, pid, uid, area, defaultHotAreas, pointerHotAreas, agentWindowId, flags }

def pullDisplay : PacketM DisplayData := do
  let id ← pull (0 : Int32)
  let x ← pull (0 : Int32)
  let y ← pull (0 : Int32)
  let width ← pull (0 : Int32)
  let height ← pull (0 : Int32)
  let name ← pullField .string
  let uniq ← pullField .string
  let direction ← pull (0 : Int32)
  pure { id, x, y, width, height, name, uniq, direction }

/-- A loop of `OnDisplayInfo`: no items if there is an error after one of
them. -/
def pullItems {α : Type} (read : PacketM α) : Nat → List α → PacketM (Option (List α))
  | 0, items => pure (some items)
  | n + 1, items => do
      let info ← read
      if (← rwError) then pure none else pullItems read n (items ++ [info])

/-- `OnDisplayInfo`: the layout that `UpdateDisplayInfo` of the window manager
is called with. -/
def onDisplayInfo : PacketM (Option DisplayGroupData) := do
  let width ← pull (0 : Int32)
  let height ← pull (0 : Int32)
  let focusWindowId ← pull (0 : Int32)
  let num ← pull (0 : UInt32)
  if (← rwError) then pure none
  else
    match ← pullItems pullWindow num.toNat [] with
    | none => pure none
    | some windowsInfo =>
        let num ← pull num
        match ← pullItems pullDisplay num.toNat [] with
        | none => pure none
        | some displaysInfo =>
            if (← rwError) then pure none
            else pure (some { width, height, focusWindowId, windowsInfo, displaysInfo })

/-- The layouts applied for packets. -/
def applied (pkts : List NetPacket) : List DisplayGroupData :=
  pkts.filterMap fun pkt =>
    if pkt.msgId = displayInfoMsg then (onDisplayInfo.run pkt.toStreamBuffer).1 else none

/-! ## The bytes of a layout -/

def windowBytes (item : WindowData) : List UInt8 :=
  toBytes item.id ++ (toBytes item.pid ++ (toBytes item.uid ++ (toBytes item.area ++
    (wire hotAreas item.defaultHotAreas ++ (wire hotAreas item.pointerHotAreas ++
      (toBytes item.agentWindowId ++ toBytes item.flags))))))

def displayBytes (item : DisplayData) : List UInt8 :=
  toBytes item.id ++ (toBytes item.x ++ (toBytes item.y ++ (toBytes item.width ++
    (toBytes item.height ++ (wire .string item.name ++ (wire .string item.uniq ++
      toBytes item.direction))))))

def windowsBytes (windowsInfo : List WindowData) : List UInt8 :=
  toBytes (UInt32.ofNat windowsInfo.length) ++ windowsInfo.flatMap windowBytes

def displaysBytes (displaysInfo : List DisplayData) : List UInt8 :=
  toBytes (UInt32.ofNat displaysInfo.length) ++ displaysInfo.flatMap displayBytes

def groupBytes (group : DisplayGroupData) : List UInt8 :=
  toBytes group.width ++ (toBytes group.height ++ (toBytes group.focusWindowId ++
    (windowsBytes group.windowsInfo ++ displaysBytes group.displaysInfo)))

/-- The hot areas of a window that `UpdateDisplayInfo` lets pass. -/
def GoodAreas (item : WindowData) : Prop :=
  item.defaultHotAreas.length ≤ maxHotareaCount ∧ item.pointerHotAreas.length ≤ maxHotareaCount

/-- Names without a NUL. -/
def NoNul (group : DisplayGroupData) : Prop :=
  ∀ item ∈ group.displaysInfo, 0 ∉ item.name ∧ 0 ∉ item.uniq

theorem goodAreas_of_accepts {group : DisplayGroupData} (h : acceptsDisplayInfo group = true) :
    ∀ item ∈ group.windowsInfo, GoodAreas item := by
  intro item hitem
  have hall := (Bool.and_eq_true_iff.mp h).2
  have hareas := List.all_eq_true.mp hall item hitem
  simp only [Bool.not_eq_true', Bool.or_eq_false_iff, decide_eq_false_iff_not, Nat.not_lt]
    at hareas
  exact ⟨hareas.1.1.1, hareas.1.1.2⟩

theorem countable_hotAreas {areas : List RectData} (h : areas.length ≤ maxHotareaCount) :
    Countable hotAreas areas :=
  ⟨Nat.le_trans h (by decide), fun _ _ => trivial⟩

theorem plain_hotAreas {areas : List RectData} (h : areas.length ≤ maxHotareaCount) :
    Plain hotAreas areas :=
  ⟨Nat.le_trans h (by decide), fun _ _ => ⟨trivial, rfl⟩⟩

/-! ## Packing -/

theorem pushWindow_appends {item : WindowData} (h : GoodAreas item) :
    Appends (pushWindow item) (windowBytes item) :=
  (Appends.push item.id).bind fun _ => (Appends.push item.pid).bind fun _ =>
  (Appends.push item.uid).bind fun _ => (Appends.push item.area).bind fun _ =>
  (Appends.pushField (countable_hotAreas h.1)).bind fun _ =>
  (Appends.pushField (countable_hotAreas h.2)).bind fun _ =>
  (Appends.push item.agentWindowId).bind fun _ => Appends.push item.flags

theorem pushWindow_fits {item : WindowData} (h : GoodAreas item) :
    Fits (pushWindow item) (windowBytes item) :=
  (Fits.push item.id).bind fun _ => (Fits.push item.pid).bind fun _ =>
  (Fits.push item.uid).bind fun _ => (Fits.push item.area).bind fun _ =>
  (Fits.pushField (countable_hotAreas h.1)).bind fun _ =>
  (Fits.pushField (countable_hotAreas h.2)).bind fun _ =>
  (Fits.push item.agentWindowId).bind fun _ => Fits.push item.flags

theorem pushDisplay_appends (item : DisplayData) :
    Appends (pushDisplay item) (displayBytes item) :=
  (Appends.push item.id).bind fun _ => (Appends.push item.x).bind fun _ =>
  (Appends.push item.y).bind fun _ => (Appends.push item.width).bind fun _ =>
  (Appends.push item.height).bind fun _ =>
  (Appends.pushField (t := .string) trivial).bind fun _ =>
  (Appends.pushField (t := .string) trivial).bind fun _ => Appends.push item.direction

theorem pushDisplay_fits (item : DisplayData) : Fits (pushDisplay item) (displayBytes item) :=
  (Fits.push item.id).bind fun _ => (Fits.push item.x).bind fun _ =>
  (Fits.push item.y).bind fun _ => (Fits.push item.width).bind fun _ =>
  (Fits.push item.height).bind fun _ =>
  (Fits.pushField (t := .string) trivial).bind fun _ =>
  (Fits.pushField (t := .string) trivial).bind fun _ => Fits.push item.direction

theorem packWindowInfo_reports {windowsInfo : List WindowData}
    (h : ∀ item ∈ windowsInfo, GoodAreas item) :
    Reports (packWindowInfo windowsInfo) (windowsBytes windowsInfo) := by
  have hloop := appends_forM_mem windowsInfo fun item hitem => pushWindow_appends (h item hitem)
  have hall := (Appends.push (UInt32.ofNat windowsInfo.length)).bindReports fun _ =>
    hloop.bindReports fun _ => Reports.check
  rwa [List.append_nil] at hall

theorem packWindowInfo_fits {windowsInfo : List WindowData}
    (h : ∀ item ∈ windowsInfo, GoodAreas item) :
    Fits (packWindowInfo windowsInfo) (windowsBytes windowsInfo) := by
  have hloop := fits_forM_mem windowsInfo fun item hitem => pushWindow_fits (h item hitem)
  have hall := (Fits.push (UInt32.ofNat windowsInfo.length)).bind fun _ =>
    hloop.bind fun _ => Fits.check
  rwa [List.append_nil] at hall

theorem packDisplayInfo_reports (displaysInfo : List DisplayData) :
    Reports (packDisplayInfo displaysInfo) (displaysBytes displaysInfo) := by
  have hloop := Appends.forM pushDisplay_appends displaysInfo
  have hall := (Appends.push (UInt32.ofNat displaysInfo.length)).bindReports fun _ =>
    hloop.bindReports fun _ => Reports.check
  rwa [List.append_nil] at hall

theorem packDisplayInfo_fits (displaysInfo : List DisplayData) :
    Fits (packDisplayInfo displaysInfo) (displaysBytes displaysInfo) := by
  have hloop := fits_forM_mem displaysInfo fun item _ => pushDisplay_fits item
  have hall := (Fits.push (UInt32.ofNat displaysInfo.length)).bind fun _ =>
    hloop.bind fun _ => Fits.check
  rwa [List.append_nil] at hall

theorem packDisplayData_reports {group : DisplayGroupData}
    (h : ∀ item ∈ group.windowsInfo, GoodAreas item) :
    Reports (packDisplayData group) (groupBytes group) :=
  (Appends.push group.width).bindReports fun _ => (Appends.push group.height).bindReports fun _ =>
  (Appends.push group.focusWindowId).bindReports fun _ =>
  ((packWindowInfo_reports h).bindErr (packDisplayInfo_reports group.displaysInfo)).unlessError

theorem packDisplayData_fits {group : DisplayGroupData}
    (h : ∀ item ∈ group.windowsInfo, GoodAreas item) :
    Fits (packDisplayData group) (groupBytes group) :=
  (Fits.push group.width).bind fun _ => (Fits.push group.height).bind fun _ =>
  (Fits.push group.focusWindowId).bind fun _ =>
  ((packWindowInfo_fits h).bindErr (packWindowInfo_reports h)
    (packDisplayInfo_fits group.displaysInfo)).unlessError

theorem packDisplayData_refuses (group : DisplayGroupData) : Refuses (packDisplayData group) :=
  Refuses.bind fun _ => Refuses.bind fun _ => Refuses.bind fun _ => Refuses.bind fun _ =>
  Refuses.retErr.ite <| Refuses.bind fun _ => Refuses.retErr.ite <|
  Refuses.bind fun _ => Refuses.bind fun _ => Refuses.check

/-- A layout is packed if and only if it fits into a stream buffer. -/
theorem displayPacket_cases {group : DisplayGroupData}
    (h : ∀ item ∈ group.windowsInfo, GoodAreas item) :
    ((groupBytes group).length ≤ maxStreamBufSize ∧ (displayPacket group).1 = retOk ∧
      (displayPacket group).2.chkRWError = false ∧
      (displayPacket group).2.payload = groupBytes group) ∨
    (maxStreamBufSize < (groupBytes group).length ∧ (displayPacket group).1 = retErr) := by
  have hcreate : (NetPacket.create displayInfoMsg).toStreamBuffer = StreamBuffer.create := rfl
  by_cases hfit : (groupBytes group).length ≤ maxStreamBufSize
  · have htook := packDisplayData_fits h StreamBuffer.create rfl
      (by show 0 + _ ≤ _; rwa [Nat.zero_add])
    obtain ⟨hret, -, hholds⟩ := packDisplayData_reports h StreamBuffer.create htook.ok
    refine .inl ⟨hfit, hret, (StreamBuffer.chkRWError_eq_false_iff _).mpr htook.ok, ?_⟩
    exact NetPacket.written_of_holds (hholds [] StreamBuffer.create_holds) htook.rPos
  · refine .inr ⟨Nat.lt_of_not_le hfit, packDisplayData_refuses group StreamBuffer.create ?_⟩
    intro hok
    obtain ⟨-, -, hholds⟩ := packDisplayData_reports h StreamBuffer.create hok
    have hb := hholds [] StreamBuffer.create_holds
    have hlen := congrArg List.length hb.eq
    have hle := ((packDisplayData group).run StreamBuffer.create).2.wPos_le
    rw [StreamBuffer.unread_length, List.nil_append] at hlen
    omega

/-! ## Unpacking -/

theorem pullWindow_reads {item : WindowData} (h : GoodAreas item) :
    Reads pullWindow (windowBytes item) item := by
  have hareas := Reads.pullField (plain_hotAreas h.1)
  have hareas' := Reads.pullField (plain_hotAreas h.2)
  unfold pullWindow windowBytes
  refine (Reads.pull 0 item.id).bind ?_
  refine (Reads.pull 0 item.pid).bind ?_
  refine (Reads.pull 0 item.uid).bind ?_
  refine (Reads.pull _ item.area).bind ?_
  refine hareas.bind ?_
  refine hareas'.bind ?_
  refine (Reads.pull 0 item.agentWindowId).bind ?_
  exact (Reads.pull 0 item.flags).map _

theorem pullDisplay_reads {item : DisplayData} (h : 0 ∉ item.name ∧ 0 ∉ item.uniq) :
    Reads pullDisplay (displayBytes item) item :=
  (Reads.pull 0 item.id).bind <| (Reads.pull 0 item.x).bind <| (Reads.pull 0 item.y).bind <|
  (Reads.pull 0 item.width).bind <| (Reads.pull 0 item.height).bind <|
  (Reads.pullField (t := .string) h.1).bind <| (Reads.pullField (t := .string) h.2).bind <|
  (Reads.pull 0 item.direction).map _

theorem pullItems_reads {α : Type} {read : PacketM α} {image : α → List UInt8} (items : List α)
    (hread : ∀ item ∈ items, Reads read (image item) item) :
    ∀ front : List α, Reads (pullItems read items.length front) (items.flatMap image)
      (some (front ++ items)) := by
  induction items with
  | nil =>
    intro front
    rw [List.append_nil]
    exact Reads.pure (some front)
  | cons item items ih =>
    intro front
    obtain ⟨hitem, hrest⟩ := List.forall_mem_cons.mp hread
    have htail := ih hrest (front ++ [item])
    rw [List.append_assoc] at htail
    rw [List.flatMap_cons]
    exact hitem.bind htail.unlessError

theorem onDisplayInfo_reads {group : DisplayGroupData}
    (hareas : ∀ item ∈ group.windowsInfo, GoodAreas item) (hnames : NoNul group)
    (hwindows : group.windowsInfo.length < 2 ^ 32)
    (hdisplays : group.displaysInfo.length < 2 ^ 32) :
    Reads onDisplayInfo (groupBytes group) (some group) := by
  have hnum : (UInt32.ofNat group.windowsInfo.length).toNat = group.windowsInfo.length :=
    UInt32.toNat_ofNat_of_lt hwindows
  have hnum' : (UInt32.ofNat group.displaysInfo.length).toNat = group.displaysInfo.length :=
    UInt32.toNat_ofNat_of_lt hdisplays
  have hpullWindows := pullItems_reads group.windowsInfo
    (fun item hitem => pullWindow_reads (hareas item hitem)) []
  have hpullDisplays := pullItems_reads group.displaysInfo
    (fun item hitem => pullDisplay_reads (hnames item hitem)) []
  rw [← hnum] at hpullWindows
  rw [← hnum'] at hpullDisplays
  unfold onDisplayInfo groupBytes windowsBytes displaysBytes
  refine (Reads.pull 0 group.width).bind ?_
  refine (Reads.pull 0 group.height).bind ?_
  refine (Reads.pull 0 group.focusWindowId).bind ?_
  rw [List.append_assoc]
  refine (Reads.pull 0 _).bind ?_
  apply Reads.unlessError
  refine hpullWindows.bind ?_
  refine (Reads.pull _ _).bind ?_
  rw [← List.append_nil (group.displaysInfo.flatMap displayBytes)]
  refine hpullDisplays.bind ?_
  apply Reads.unlessError
  exact Reads.pure _

theorem windowBytes_ne_nil (item : WindowData) : windowBytes item ≠ [] :=
  List.append_ne_nil_of_left_ne_nil (toBytes_ne_nil item.id) _

theorem displayBytes_ne_nil (item : DisplayData) : displayBytes item ≠ [] :=
  List.append_ne_nil_of_left_ne_nil (toBytes_ne_nil item.id) _

theorem length_le_flatMap {α : Type} {image : α → List UInt8} (himage : ∀ a, image a ≠ [])
    (as : List α) : as.length ≤ (as.flatMap image).length := by
  induction as with
  | nil => exact Nat.le_refl 0
  | cons a as ih =>
    have hpos := List.length_pos_iff.mpr (himage a)
    rw [List.flatMap_cons, List.length_append, List.length_cons]
    omega

/-- The server reads back a layout that fits into a packet. -/
theorem onDisplayInfo_run {group : DisplayGroupData}
    (hareas : ∀ item ∈ group.windowsInfo, GoodAreas item) (hnames : NoNul group)
    {b : StreamBuffer} (hb : b.Holds (groupBytes group)) :
    (onDisplayInfo.run b).1 = some group := by
  have hfit : (groupBytes group).length ≤ maxStreamBufSize := by
    have hlen := congrArg List.length hb.eq
    have hle := b.wPos_le
    rw [StreamBuffer.unread_length] at hlen
    omega
  have hwindows : group.windowsInfo.length ≤ (group.windowsInfo.flatMap windowBytes).length :=
    length_le_flatMap windowBytes_ne_nil _
  have hdisplays : group.displaysInfo.length ≤ (group.displaysInfo.flatMap displayBytes).length :=
    length_le_flatMap displayBytes_ne_nil _
  simp only [groupBytes, windowsBytes, displaysBytes, List.length_append,
    maxStreamBufSize_eq] at hfit
  have hreads := onDisplayInfo_reads hareas hnames (by omega) (by omega)
  exact (hreads b [] (by rwa [List.append_nil])).1

/-! ## What `SendMsg` makes of it -/

/-- What the kernel takes before the last retry. -/
def takesInTime (build : Build) (outcome : Nat → SendOutcome) : Nat :=
  kernelTakes outcome (sendRetryLimit build - 1) 0

/-- What it takes in all. -/
def takesInAll (build : Build) (outcome : Nat → SendOutcome) : Nat :=
  kernelTakes outcome (sendRetryLimit build) 0

/-- The frame of a layout begins with this header. -/
def layoutHead (group : DisplayGroupData) : PackHead :=
  ⟨displayInfoMsg, Int32.ofNat (groupBytes group).length⟩

def layoutFrame (group : DisplayGroupData) : List UInt8 :=
  frameBytes displayInfoMsg (groupBytes group)

theorem layoutFrame_length (group : DisplayGroupData) :
    (layoutFrame group).length = 8 + (groupBytes group).length :=
  frameBytes_length _ _

/-- A layout that does not fit into a packet is not sent. -/
theorem updateDisplayInfo_of_large (build : Build) (fd : Int) (outcome : Nat → SendOutcome)
    {group : DisplayGroupData} (hacc : acceptsDisplayInfo group = true)
    (hlarge : maxStreamBufSize < (groupBytes group).length) :
    updateDisplayInfo build fd outcome group = (false, []) := by
  rcases displayPacket_cases (goodAreas_of_accepts hacc) with ⟨hfit, -⟩ | ⟨-, hret⟩
  · omega
  · simp [updateDisplayInfo, hacc, hret]

/-- The others are handed to `SendMsg`: the frame, or its header alone. -/
theorem updateDisplayInfo_of_fits (build : Build) (fd : Int) (outcome : Nat → SendOutcome)
    {group : DisplayGroupData} (hacc : acceptsDisplayInfo group = true)
    (hfit : (groupBytes group).length ≤ maxStreamBufSize) :
    let sent := sendBytes build fd outcome
      (if 8 + (groupBytes group).length ≤ maxStreamBufSize then layoutFrame group
        else toBytes (layoutHead group))
    updateDisplayInfo build fd outcome group = (sent.result, sent.accepted) := by
  rcases displayPacket_cases (goodAreas_of_accepts hacc) with ⟨-, hret, hchk, hpayload⟩ | ⟨h, -⟩
  · have hpos : (displayPacket group).2.wPos = (groupBytes group).length := by
      rw [← NetPacket.payload_length, hpayload]
    have hwritten : ((displayPacket group).2.makeData StreamBuffer.create).written =
        if 8 + (groupBytes group).length ≤ maxStreamBufSize then layoutFrame group
        else toBytes (layoutHead group) := by
      split
      · rename_i hframe
        rw [NetPacket.written_of_holds ((displayPacket group).2.makeData_holds (by rwa [hpos]))
          (displayPacket group).2.makeData_rPos, NetPacket.frame, hpayload]
        rfl
      · rename_i hframe
        rw [(displayPacket group).2.makeData_written_of_large (by rw [hpos]; omega), hpos]
        rfl
    have hne : ¬ (displayPacket group).1 = retErr := by
      rw [hret]
      decide
    simp only [updateDisplayInfo, hacc, Bool.not_true, Bool.false_eq_true, if_false, if_neg hne,
      UDSClient.sendMsg, sendPacket, hchk, hwritten]
    rfl
  · omega

/-! ## What the server makes of it -/

/-- Bytes that arrive in pieces at a connection with nothing waiting: as
long as they are not complete nothing is handed on, and then what they make
together. -/
theorem delivered_of_pieces {whole : List UInt8} (hlen : whole.length ≤ maxStreamBufSize)
    (hpart : ∀ (b : StreamBuffer) (bs : List UInt8), b.Holds bs → bs <+: whole →
      bs.length < whole.length → readPacket b = (none, b)) (chunks : List (List UInt8)) :
    ∀ (r : Receiver) (front : List UInt8), r.circBuf.Holds front →
      (∀ chunk ∈ chunks, chunk ≠ []) → front ++ chunks.flatten <+: whole →
      ((front ++ chunks.flatten).length < whole.length →
        (runFrom recvChunk r chunks).delivered = r.delivered) ∧
      (front.length < whole.length → (front ++ chunks.flatten).length = whole.length →
        ∃ b : StreamBuffer, b.Holds whole ∧
          (runFrom recvChunk r chunks).delivered = r.delivered ++ (onReadPackets b).1) := by
  induction chunks with
  | nil =>
    intro r front _ _ _
    refine ⟨fun _ => rfl, fun hlt hall => ?_⟩
    simp only [List.flatten_nil, List.append_nil] at hall
    omega
  | cons chunk rest ih =>
    intro r front hr hne hpre
    obtain ⟨hchunk, hrest⟩ := List.forall_mem_cons.mp hne
    have hassoc : front ++ (chunk :: rest).flatten = (front ++ chunk) ++ rest.flatten := by
      rw [List.flatten_cons, List.append_assoc]
    rw [hassoc] at hpre ⊢
    have hpre' : front ++ chunk <+: whole := (List.prefix_append _ _).trans hpre
    have hsize := hpre'.length_le
    rw [List.length_append] at hsize
    rcases CircleStreamBuffer.write_cases hr hchunk with ⟨_, _, hbuf⟩ | ⟨hfull, _, _⟩
    · by_cases hshort : (front ++ chunk).length < whole.length
      · have hnone : onReadPackets (CircleStreamBuffer.write r.circBuf chunk).2
            = ([], (CircleStreamBuffer.write r.circBuf chunk).2) := by
          rw [onReadPackets, show onceProcessNetpacketLimit = 99 + 1 from rfl, readPackets,
            hpart _ _ hbuf hpre' hshort]
        have hholds : (recvChunk r chunk).circBuf.Holds (front ++ chunk) := by
          simp only [recvChunk, hnone]
          exact hbuf
        have hsame : (recvChunk r chunk).delivered = r.delivered := by
          simp only [recvChunk, hnone, List.append_nil]
        obtain ⟨hpart', hwhole⟩ := ih (recvChunk r chunk) (front ++ chunk) hholds hrest hpre
        rw [hsame] at hpart' hwhole
        exact ⟨hpart', fun _ => hwhole hshort⟩
      · -- Complete: there is nothing left to come.
        have heq : front ++ chunk = whole :=
          hpre'.eq_of_length_le (Nat.le_of_not_lt hshort)
        have hnil : rest = [] := by
          have hle := hpre.length_le
          rw [List.length_append, heq] at hle
          have hflat : rest.flatten = [] := List.eq_nil_of_length_eq_zero (by omega)
          cases rest with
          | nil => rfl
          | cons c cs =>
            rw [List.flatten_cons, List.append_eq_nil_iff] at hflat
            exact absurd hflat.1 (hrest c List.mem_cons_self)
        subst hnil
        rw [heq] at hbuf ⊢
        refine ⟨fun h => absurd h (by simp), fun _ _ => ⟨_, hbuf, rfl⟩⟩
    · omega

/-- A packet with the bytes of a layout. -/
theorem applied_of_content {group : DisplayGroupData}
    (hareas : ∀ item ∈ group.windowsInfo, GoodAreas item) (hnames : NoNul group)
    {pkts : List NetPacket} (hpkts : ∀ pkt ∈ pkts, pkt.Holds pkt.payload)
    (hcontent : pkts.map packetContent = [(displayInfoMsg, groupBytes group)]) :
    applied pkts = [group] := by
  obtain ⟨pkt, rfl, hpkt⟩ := List.map_eq_singleton_iff.mp hcontent
  injection hpkt with hid hpayload
  have hholds := hpkts pkt List.mem_cons_self
  rw [hpayload] at hholds
  have hrun := onDisplayInfo_run hareas hnames hholds
  simp [applied, hid, hrun]

/-- The frame of a layout is applied when all of it arrives. -/
theorem applied_of_frame {group : DisplayGroupData}
    (hareas : ∀ item ∈ group.windowsInfo, GoodAreas item) (hnames : NoNul group)
    (hfit : 8 + (groupBytes group).length ≤ maxPacketBufSize) {k : Nat}
    {chunks : List (List UInt8)} (hne : ∀ chunk ∈ chunks, chunk ≠ [])
    (hchunks : chunks.flatten = (layoutFrame group).take k) :
    applied (runFrom recvChunk .create chunks).delivered =
      if 8 + (groupBytes group).length ≤ k then [group] else [] := by
  have hmax : maxStreamBufSize = 2 * maxPacketBufSize := rfl
  let frame : Frame := ⟨displayInfoMsg, groupBytes group, by rw [headSize_eq]; omega⟩
  have hlength : frame.bytes.length = 8 + (groupBytes group).length := layoutFrame_length group
  have hpre : [] ++ chunks.flatten <+: frame.bytes := by
    rw [List.nil_append, hchunks]
    exact List.take_prefix _ _
  obtain ⟨hpart, hwhole⟩ := delivered_of_pieces (by rw [hlength]; omega)
    (fun _ _ hb hpre hlt => readPacket_of_incomplete hb hpre hlt) chunks .create []
    StreamBuffer.create_holds hne hpre
  rw [hlength, List.nil_append, hchunks, List.length_take, layoutFrame_length] at hpart hwhole
  by_cases hk : 8 + (groupBytes group).length ≤ k
  · obtain ⟨b, hb, hdelivered⟩ := hwhole (by rw [List.length_nil]; omega) (by omega)
    obtain ⟨hcontent, -⟩ := readPackets_spec onceProcessNetpacketLimit [frame] b frame.bytes hb
      (List.prefix_append _ _)
    have hone : min onceProcessNetpacketLimit
        (framesWithin ([frame].map Frame.length) frame.bytes.length) = 1 := by
      simp [framesWithin, Frame.length, onceProcessNetpacketLimit]
    rw [hone] at hcontent
    rw [if_pos hk, hdelivered]
    exact applied_of_content hareas hnames (readPackets_holds _ b) hcontent
  · rw [if_neg hk, hpart (by omega)]
    rfl

/-- A header that announces more than a packet's bytes is dropped. -/
theorem applied_of_head {group : DisplayGroupData}
    (hfit : (groupBytes group).length ≤ maxStreamBufSize)
    (hlarge : maxStreamBufSize < 8 + (groupBytes group).length) {k : Nat}
    {chunks : List (List UInt8)} (hne : ∀ chunk ∈ chunks, chunk ≠ [])
    (hchunks : chunks.flatten = (toBytes (layoutHead group)).take k) :
    applied (runFrom recvChunk .create chunks).delivered = [] := by
  have hmax : maxStreamBufSize = 16384 := rfl
  have hlength : (toBytes (layoutHead group)).length = 8 := toBytes_packHead_length _
  have hsize : (layoutHead group).size.toInt = (groupBytes group).length :=
    Int32.toInt_ofNat_of_lt (by omega)
  have hpre : [] ++ chunks.flatten <+: toBytes (layoutHead group) := by
    rw [List.nil_append, hchunks]
    exact List.take_prefix _ _
  obtain ⟨hpart, hwhole⟩ := delivered_of_pieces (by rw [hlength]; omega)
    (fun _ _ hb _ hlt => readPacket_of_short hb.shows (by rw [headSize_eq]; omega)) chunks .create []
    StreamBuffer.create_holds hne hpre
  by_cases hshort : ([] ++ chunks.flatten).length < (toBytes (layoutHead group)).length
  · rw [hpart hshort]
    rfl
  · obtain ⟨b, hb, hdelivered⟩ := hwhole (by rw [hlength]; decide)
      (Nat.le_antisymm hpre.length_le (Nat.le_of_not_lt hshort))
    have hnone : readPacket b = (none, b.reset) := by
      rw [← List.append_nil (toBytes (layoutHead group))] at hb
      rw [readPacket_of_head hb.shows, hsize, maxPacketBufSize_eq, if_pos (by omega)]
    rw [hdelivered, onReadPackets, show onceProcessNetpacketLimit = 99 + 1 from rfl, readPackets,
      hnone]
    rfl

/-! ## From the client to the server -/

/-- The server applies the layout if the client has packed and sent it, and
none otherwise. -/
def Survives (sent : Bool) (group : DisplayGroupData) (chunks : List (List UInt8)) : Prop :=
  applied (runFrom recvChunk .create chunks).delivered = if sent then [group] else []

/-- The last retry completes the frame: it has gone out, and `SendMsg` says it
has not. -/
def SentTooLate (build : Build) (outcome : Nat → SendOutcome) (group : DisplayGroupData) : Prop :=
  8 + (groupBytes group).length ≤ maxPacketBufSize ∧
    takesInTime build outcome < 8 + (groupBytes group).length ∧
    8 + (groupBytes group).length ≤ takesInAll build outcome

/-- The layout fits into a stream buffer, and the header no longer fits before
it: the header goes out alone. -/
def SentHeaderOnly (build : Build) (outcome : Nat → SendOutcome) (group : DisplayGroupData) :
    Prop :=
  (groupBytes group).length ≤ maxStreamBufSize ∧
    maxStreamBufSize < 8 + (groupBytes group).length ∧ 8 ≤ takesInTime build outcome

instance (build : Build) (outcome : Nat → SendOutcome) (group : DisplayGroupData) :
    Decidable (SentTooLate build outcome group) := inferInstanceAs (Decidable (_ ∧ _ ∧ _))

instance (build : Build) (outcome : Nat → SendOutcome) (group : DisplayGroupData) :
    Decidable (SentHeaderOnly build outcome group) := inferInstanceAs (Decidable (_ ∧ _ ∧ _))

theorem kernelTakes_succ_le (outcome : Nat → SendOutcome) (n : Nat) :
    ∀ i, kernelTakes outcome n i ≤ kernelTakes outcome (n + 1) i := by
  induction n with
  | zero => intro i; exact Nat.zero_le _
  | succ n ih =>
    intro i
    have hrest := ih (i + 1)
    rw [kernelTakes, kernelTakes]
    cases outcome i with
    | sent k => exact Nat.add_le_add_left hrest k
    | again => exact hrest
    | fail => exact Nat.le_refl 0

theorem takesInTime_le (build : Build) (outcome : Nat → SendOutcome) :
    takesInTime build outcome ≤ takesInAll build outcome := by
  have h := kernelTakes_succ_le outcome (sendRetryLimit build - 1) 0
  have hpos := sendRetryLimit_pos build
  rwa [Nat.sub_add_cancel hpos] at h

/-- Nothing arrives, and nothing is said to have been sent. -/
theorem survives_of_nothing {group : DisplayGroupData} {chunks : List (List UInt8)}
    (hne : ∀ chunk ∈ chunks, chunk ≠ []) (hchunks : chunks.flatten = []) :
    Survives false group chunks := by
  cases chunks with
  | nil => rfl
  | cons chunk rest =>
    rw [List.flatten_cons, List.append_eq_nil_iff] at hchunks
    exact absurd hchunks.1 (hne chunk List.mem_cons_self)

/-- A layout whose frame is no longer than a packet. -/
theorem survives_frame_iff (build : Build) {fd : Int} (hfd : 0 ≤ fd)
    (outcome : Nat → SendOutcome) {group : DisplayGroupData}
    (hacc : acceptsDisplayInfo group = true) (hnames : NoNul group)
    (hframe : 8 + (groupBytes group).length ≤ maxPacketBufSize) {chunks : List (List UInt8)}
    (hne : ∀ chunk ∈ chunks, chunk ≠ [])
    (hchunks : chunks.flatten = (updateDisplayInfo build fd outcome group).2) :
    Survives (updateDisplayInfo build fd outcome group).1 group chunks ↔
      ¬ SentTooLate build outcome group := by
  have hmax : maxStreamBufSize = 2 * maxPacketBufSize := rfl
  have hlen := layoutFrame_length group
  have hnonempty : layoutFrame group ≠ [] := List.ne_nil_of_length_pos (by omega)
  have hsent := updateDisplayInfo_of_fits build fd outcome hacc (by omega)
  simp only at hsent
  rw [if_pos (by omega)] at hsent
  rw [hsent] at hchunks ⊢
  simp only at hchunks ⊢
  rw [sendBytes_accepted build hfd _ _ (by omega), hlen] at hchunks
  rw [sendBytes_result build hfd _ hnonempty (by omega), Survives,
    applied_of_frame (goodAreas_of_accepts hacc) hnames hframe hne hchunks, hlen]
  have hle := takesInTime_le build outcome
  unfold takesInTime takesInAll at hle
  unfold SentTooLate takesInTime takesInAll
  simp only [decide_eq_true_eq]
  by_cases htime : 8 + (groupBytes group).length ≤ kernelTakes outcome (sendRetryLimit build - 1) 0
  · rw [if_pos htime, if_pos (by omega)]
    exact ⟨fun _ h => by omega, fun _ => rfl⟩
  · rw [if_neg htime]
    by_cases hall : 8 + (groupBytes group).length ≤ kernelTakes outcome (sendRetryLimit build) 0
    · rw [if_pos (by omega)]
      exact ⟨fun h => (by cases h), fun h => absurd ⟨hframe, by omega, hall⟩ h⟩
    · rw [if_neg (by omega)]
      exact ⟨fun _ h => hall h.2.2, fun _ => rfl⟩

/-- A layout that fits into a stream buffer without the header only. -/
theorem survives_head_iff (build : Build) {fd : Int} (hfd : 0 ≤ fd)
    (outcome : Nat → SendOutcome) {group : DisplayGroupData}
    (hacc : acceptsDisplayInfo group = true)
    (hfit : (groupBytes group).length ≤ maxStreamBufSize)
    (hlarge : maxStreamBufSize < 8 + (groupBytes group).length) {chunks : List (List UInt8)}
    (hne : ∀ chunk ∈ chunks, chunk ≠ [])
    (hchunks : chunks.flatten = (updateDisplayInfo build fd outcome group).2) :
    Survives (updateDisplayInfo build fd outcome group).1 group chunks ↔
      takesInTime build outcome < 8 := by
  have hlen : (toBytes (layoutHead group)).length = 8 := toBytes_packHead_length _
  have hsent := updateDisplayInfo_of_fits build fd outcome hacc hfit
  simp only at hsent
  rw [if_neg (by omega)] at hsent
  rw [hsent] at hchunks ⊢
  simp only at hchunks ⊢
  rw [sendBytes_accepted build hfd _ _ (by rw [hlen]; decide)] at hchunks
  rw [sendBytes_result build hfd _ (toBytes_ne_nil _) (by rw [hlen]; decide), Survives,
    applied_of_head hfit hlarge hne hchunks, hlen]
  unfold takesInTime
  simp only [decide_eq_true_eq]
  by_cases htime : 8 ≤ kernelTakes outcome (sendRetryLimit build - 1) 0
  · rw [if_pos htime]
    exact ⟨fun h => (by cases h), fun h => by omega⟩
  · rw [if_neg htime]
    exact ⟨fun _ => by omega, fun _ => rfl⟩

/-- Of a layout that `UpdateDisplayInfo` accepts, with no NUL in a name, the
server applies exactly what is packed and sent with success, and nothing
otherwise, unless the header goes out alone or the frame goes out with the
last retry. -/
theorem layoutSurvives_iff (build : Build) (fd : Int) (outcome : Nat → SendOutcome)
    (group : DisplayGroupData) (hacc : acceptsDisplayInfo group = true) (hnames : NoNul group)
    (chunks : List (List UInt8)) (hne : ∀ chunk ∈ chunks, chunk ≠ [])
    (hchunks : chunks.flatten = (updateDisplayInfo build fd outcome group).2) :
    Survives (updateDisplayInfo build fd outcome group).1 group chunks ↔
      fd < 0 ∨ ¬ SentTooLate build outcome group ∧ ¬ SentHeaderOnly build outcome group := by
  have hmax : maxStreamBufSize = 2 * maxPacketBufSize := rfl
  by_cases hbig : maxStreamBufSize < (groupBytes group).length
  · rw [updateDisplayInfo_of_large build fd outcome hacc hbig] at hchunks ⊢
    refine iff_of_true (survives_of_nothing hne hchunks) (.inr ⟨fun h => ?_, fun h => ?_⟩)
    · have := h.1
      omega
    · exact absurd h.1 (Nat.not_le.mpr hbig)
  · have hfit : (groupBytes group).length ≤ maxStreamBufSize := Nat.le_of_not_lt hbig
    by_cases hfd : fd < 0
    · have hsent := updateDisplayInfo_of_fits build fd outcome hacc hfit
      have hrefused : ∀ bytes, sendBytes build fd outcome bytes = .refused := by
        intro bytes
        unfold sendBytes
        rw [if_pos hfd, ite_self]
      simp only [hrefused] at hsent
      rw [hsent] at hchunks ⊢
      exact iff_of_true (survives_of_nothing hne hchunks) (.inl hfd)
    · have hfd' : 0 ≤ fd := Int.not_lt.mp hfd
      rw [or_iff_right hfd]
      by_cases hhead : maxStreamBufSize < 8 + (groupBytes group).length
      · rw [survives_head_iff build hfd' outcome hacc hfit hhead hne hchunks]
        constructor
        · intro htime
          exact ⟨fun h => by have := h.1; omega, fun h => by have := h.2.2; omega⟩
        · intro h
          by_contra htime
          exact h.2 ⟨hfit, hhead, Nat.le_of_not_lt htime⟩
      · have hnotHead : ¬ SentHeaderOnly build outcome group := fun h => hhead h.2.1
        rw [and_iff_left hnotHead]
        by_cases hframe : 8 + (groupBytes group).length ≤ maxPacketBufSize
        · exact survives_frame_iff build hfd' outcome hacc hnames hframe hne hchunks
        · have hsent := updateDisplayInfo_of_fits build fd outcome hacc hfit
          simp only at hsent
          rw [if_pos (by omega), sendBytes_of_large build fd outcome
            (by rw [layoutFrame_length]; omega)] at hsent
          rw [hsent] at hchunks ⊢
          exact iff_of_true (survives_of_nothing hne hchunks) fun h => hframe h.1

/-- A screen with two windows. -/
def twoWindows : DisplayGroupData where
  width := 720
  height := 1280
  focusWindowId := 2
  windowsInfo :=
    [{ id := 1, pid := 100, uid := 10, area := ⟨0, 0, 720, 640⟩,
       defaultHotAreas := [⟨0, 0, 720, 640⟩], pointerHotAreas := [⟨0, 0, 700, 640⟩],
       agentWindowId := 1, flags := 0 },
     { id := 2, pid := 101, uid := 11, area := ⟨0, 640, 720, 640⟩,
       defaultHotAreas := [⟨0, 640, 720, 640⟩, ⟨0, 1200, 9, 9⟩],
       pointerHotAreas := [⟨0, 640, 700, 640⟩], agentWindowId := 2, flags := 1 }]
  displaysInfo :=
    [{ id := 0, x := 0, y := 0, width := 720, height := 1280, name := [115, 48], uniq := [48],
       direction := 0 }]

/-- The kernel takes a hundred bytes at a time. -/
def slowly : Nat → SendOutcome := fun _ => .sent 100

theorem layoutSurvives_twoWindows :
    Survives (updateDisplayInfo ⟨false⟩ 5 slowly twoWindows).1 twoWindows
      [(updateDisplayInfo ⟨false⟩ 5 slowly twoWindows).2] :=
  (layoutSurvives_iff ⟨false⟩ 5 slowly twoWindows (by decide) (by unfold NoNul; decide) _
    (by simp only [List.mem_singleton, forall_eq]; decide +kernel)
    (List.flatten_singleton)).mpr (.inr (by decide +kernel))

/-- A screen with a name. -/
def screenNamed (name : List UInt8) : DisplayGroupData where
  width := 720
  height := 1280
  focusWindowId := -1
  windowsInfo := []
  displaysInfo :=
    [{ id := 0, x := 0, y := 0, width := 720, height := 1280, name, uniq := [], direction := 0 }]

theorem screenNamed_length (name : List UInt8) :
    (groupBytes (screenNamed name)).length = 46 + name.length := by
  have hname : (wire .string name).length = name.length + 1 := List.length_append
  have hint : ∀ n : Int32, (toBytes n).length = 4 := ByteImage.toBytes_length
  have huint : ∀ n : UInt32, (toBytes n).length = 4 := ByteImage.toBytes_length
  simp only [groupBytes, windowsBytes, displaysBytes, displayBytes, screenNamed,
    List.flatMap_cons, List.flatMap_nil, List.length_append, List.length_nil, hname, hint, huint]
  simp only [wire, List.nil_append, List.length_singleton]
  omega

/-- A name of 16338 letters. -/
def longName : List UInt8 := List.replicate 16338 97

/-- It is packed, `SendMsg` returns `true`, and the server does not apply it. -/
theorem counterexample_layoutSurvives :
    acceptsDisplayInfo (screenNamed longName) = true ∧ NoNul (screenNamed longName) ∧
      (updateDisplayInfo ⟨false⟩ 5 slowly (screenNamed longName)).1 = true ∧
      applied (runFrom recvChunk .create
        [(updateDisplayInfo ⟨false⟩ 5 slowly (screenNamed longName)).2]).delivered = [] := by
  have hacc : acceptsDisplayInfo (screenNamed longName) = true := rfl
  have hnames : NoNul (screenNamed longName) := by
    intro item hitem
    rw [List.mem_singleton.mp hitem]
    refine ⟨fun h => ?_, List.not_mem_nil⟩
    have hletter := List.eq_of_mem_replicate h
    revert hletter
    decide
  have hmax : maxStreamBufSize = 16384 := rfl
  have hlen : (groupBytes (screenNamed longName)).length = 16384 := by
    rw [screenNamed_length, longName, List.length_replicate]
  have hhead : (toBytes (layoutHead (screenNamed longName))).length = 8 :=
    toBytes_packHead_length _
  have hsent := updateDisplayInfo_of_fits ⟨false⟩ 5 slowly hacc (by omega)
  simp only at hsent
  rw [if_neg (by omega), sendBytes_result _ (by decide) _ (toBytes_ne_nil _)
    (by rw [hhead]; decide), sendBytes_accepted _ (by decide) _ _ (by rw [hhead]; decide), hhead]
    at hsent
  have htaken : min 8 (kernelTakes slowly (sendRetryLimit ⟨false⟩) 0) = 8 := by decide
  have hintime : 8 ≤ kernelTakes slowly (sendRetryLimit ⟨false⟩ - 1) 0 := by decide
  rw [htaken, decide_eq_true hintime, List.take_of_length_le (Nat.le_of_eq hhead)] at hsent
  rw [hsent]
  refine ⟨hacc, hnames, rfl, ?_⟩
  refine applied_of_head (Nat.le_of_eq hlen) (by omega) ?_ ?_ (k := 8)
  · intro chunk hchunk
    rw [List.mem_singleton.mp hchunk]
    exact toBytes_ne_nil _
  · rw [List.flatten_singleton, List.take_of_length_le (Nat.le_of_eq hhead)]

end FtMmi.MessageHandle
