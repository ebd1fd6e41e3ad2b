import SpdmEmu.Libspdm.Status
import SpdmEmu.Run.Machine
import SpdmEmu.Wire.ByteOrder

/-!
# The mailboxes of the device sample

`spdm_device_responder/spdm_responder_init.c` and `pci.c` of the device sample: the responder talks
to the host through the registers of a DOE capability. The host pushes the dwords of a request into
the write mailbox and sets GO; the device takes them out, and pushes the dwords of its response into
the read mailbox before it raises DATA_READY.

The registers are hardware. The two mailboxes are queues, the control register keeps what is written
to it, and the status register reads as the environment has it, one value for each read.
-/

set_option autoImplicit false

namespace SpdmEmu.Device

open SpdmEmu.Wire SpdmEmu.Libspdm SpdmEmu.Run

/-! ## Registers -/

inductive DoeRegister where
  | control
  | status
  | writeDataMailbox
  | readDataMailbox
deriving DecidableEq, Repr

/-- The DOE capability as the device sees it. -/
structure DoeDevice where
  control : UInt32
  /-- What the next reads of the status register return. -/
  status : Nat → UInt32
  /-- The dwords of the host that the device has not read. -/
  writeMailbox : List UInt32
  /-- What an empty mailbox, or an address without a register, reads as. -/
  idle : UInt32
  /-- The dwords of the device that the host has not read. -/
  readMailbox : List UInt32
  /-- Every register write of the device, in order. -/
  writes : List (DoeRegister × UInt32)

def DoeDevice.load (d : DoeDevice) : DoeRegister → UInt32 × DoeDevice
  | .control => (d.control, d)
  | .status => (d.status 0, { d with status := fun n => d.status (n + 1) })
  | .writeDataMailbox =>
      match d.writeMailbox with
      | [] => (d.idle, d)
      | x :: rest => (x, { d with writeMailbox := rest })
  | .readDataMailbox => (d.idle, d)

def DoeDevice.store (d : DoeDevice) (register : DoeRegister) (value : UInt32) : DoeDevice :=
  let d := { d with writes := d.writes ++ [(register, value)] }
  match register with
  | .control => { d with control := value }
  | .readDataMailbox => { d with readMailbox := d.readMailbox ++ [value] }
  | .status => d
  | .writeDataMailbox => d

/-- The register at an address: the capability is at 0x880 of the function 0:0.0, whose
configuration space starts at 0xE0000000. -/
def registerAt (address : UInt32) : Option DoeRegister :=
  if address = 0xE0000888 then some .control
  else if address = 0xE000088C then some .status
  else if address = 0xE0000890 then some .writeDataMailbox
  else if address = 0xE0000894 then some .readDataMailbox
  else none

/-- `PCI_ECAM_ADDRESS` -/
def pciEcamAddress (bus device function : UInt8) (offset : UInt32) : UInt32 :=
  let functionBits : UInt32 := function.toUInt32 &&& 0x07
  let deviceBits : UInt32 := device.toUInt32 &&& 0x1F
  let busBits : UInt32 := bus.toUInt32 &&& 0xFF
  (offset &&& (0xFFF : UInt32)) ||| (functionBits <<< (12 : UInt32)) |||
    (deviceBits <<< (15 : UInt32)) ||| (busBits <<< (20 : UInt32))

/-- `pci_cfg_read_32` -/
def pciCfgRead32 (bus device function : UInt8) (offset : UInt32) (d : DoeDevice) :
    UInt32 × DoeDevice :=
  match registerAt (0xE0000000 + pciEcamAddress bus device function offset) with
  | some register => d.load register
  | none => (d.idle, d)

/-- `pci_cfg_write_32` -/
def pciCfgWrite32 (bus device function : UInt8) (offset value : UInt32) (d : DoeDevice) :
    DoeDevice :=
  match registerAt (0xE0000000 + pciEcamAddress bus device function offset) with
  | some register => d.store register value
  | none => d

/-- `spdm_dev_pci_cfg_doe_read_32` -/
def spdmDevPciCfgDoeRead32 (doeOffset : UInt32) (d : DoeDevice) : UInt32 × DoeDevice :=
  pciCfgRead32 0 0 0 (0x880 + doeOffset) d

/-- `spdm_dev_pci_cfg_doe_write_32` -/
def spdmDevPciCfgDoeWrite32 (doeOffset value : UInt32) (d : DoeDevice) : DoeDevice :=
  pciCfgWrite32 0 0 0 (0x880 + doeOffset) value d

/-- `PCI_EXPRESS_REG_DOE_CONTROL_OFFSET` and the other register offsets -/
def DoeRegister.offset : DoeRegister → UInt32
  | .control => 0x08
  | .status => 0x0C
  | .writeDataMailbox => 0x10
  | .readDataMailbox => 0x14

/-- `PCI_EXPRESS_REG_DOE_CONTROL_BIT_GO` -/
def doeControlBitGo : UInt32 := 0x80000000

/-- `PCI_EXPRESS_REG_DOE_STATUS_BIT_BUSY` -/
def doeStatusBitBusy : UInt32 := 0x1

/-- `PCI_EXPRESS_REG_DOE_STATUS_BIT_DATA_READY` -/
def doeStatusBitDataReady : UInt32 := 0x80000000

/-! ## The two functions -/

/-- How a call ends: an assertion fails, the poll is still waiting, or the function returns. -/
inductive Ended (α : Type) where
  | assertion
  | waiting
  | returned (a : α)

/-- The global variables of the source; `sendReceiveBuffer` is the address of the array. -/
structure Globals where
  sendReceiveBufferAcquired : Bool
  sendReceiveBuffer : Nat
  sendReceiveBufferSize : Nat
  memory : Mem

/-- The poll of `spdm_responder_send_message`, for at most `fuel` reads of the status. -/
def waitNotBusy : Nat → DoeDevice → Option DoeDevice
  | 0, _ => none
  | fuel + 1, d =>
      let (data32, d) := spdmDevPciCfgDoeRead32 DoeRegister.status.offset d
      if data32 &&& doeStatusBitBusy = 0 then some d else waitNotBusy fuel d

/-- The last `count` passes of the loop that pushes the dwords of a message, from `index` on. -/
def pushDwords (order : ByteOrder) (message : Bytes) : Nat → Nat → DoeDevice → DoeDevice
  | 0, _, d => d
  | count + 1, index, d =>
      pushDwords order message count (index + 1)
        (spdmDevPciCfgDoeWrite32 DoeRegister.readDataMailbox.offset
          (value32 order (message.drop (4 * index))) d)

/-- `spdm_responder_send_message` -/
def spdmResponderSendMessage (order : ByteOrder) (fuel : Nat) (message : Bytes) (d : DoeDevice) :
    Ended (LibspdmReturn × DoeDevice) :=
  if message.length % 3 ≠ 0 then .assertion
  else
    match waitNotBusy fuel d with
    | none => .waiting
    | some d =>
        let d := pushDwords order message (message.length / 4) 0 d
        let d := spdmDevPciCfgDoeWrite32 DoeRegister.status.offset doeStatusBitDataReady d
        .returned (.success, d)

/-- The last `count` passes of the loop that takes dwords from the mailbox to `msg`. -/
def pullDwords (order : ByteOrder) (msg : Nat) : Nat → Nat → Mem → DoeDevice → Mem × DoeDevice
  | 0, _, m, d => (m, d)
  | count + 1, index, m, d =>
      let (data32, d) := spdmDevPciCfgDoeRead32 DoeRegister.writeDataMailbox.offset d
      pullDwords order msg count (index + 1) (m.store (msg + 4 * index) (bytes32 order data32)) d

structure ReceiveResult where
  status : LibspdmReturn
  messageSize : Nat
  globals : Globals
  device : DoeDevice

/-- `spdm_responder_receive_message`, with `LIBSPDM_STATUS_RECEIVE_FAIL` of libspdm as a parameter.
Each of its two polls returns after one read. -/
def spdmResponderReceiveMessage (order : ByteOrder) (receiveFail : LibspdmReturn) (g : Globals)
    (message messageSize : Nat) (d : DoeDevice) : Ended ReceiveResult :=
  if message ≠ g.sendReceiveBuffer then .assertion
  else if g.sendReceiveBufferSize % 3 ≠ 0 then .assertion
  else
    let (data32, d) := spdmDevPciCfgDoeRead32 DoeRegister.status.offset d
    if data32 &&& doeStatusBitBusy ≠ 0 then .returned ⟨receiveFail, messageSize, g, d⟩
    else
      let (data32, d) := spdmDevPciCfgDoeRead32 DoeRegister.control.offset d
      if data32 &&& doeControlBitGo = 0 then .returned ⟨receiveFail, messageSize, g, d⟩
      else
        let (m, d) := pullDwords order message (g.sendReceiveBufferSize / 4) 0 g.memory d
        let d := spdmDevPciCfgDoeWrite32 DoeRegister.control.offset 0 d
        .returned ⟨.success, g.sendReceiveBufferSize, { g with memory := m }, d⟩

/-! ## Register access -/

theorem registerAt_offset (register : DoeRegister) :
    registerAt (0xE0000000 + pciEcamAddress 0 0 0 (0x880 + register.offset)) = some register := by
  cases register <;> decide

@[simp] theorem doeRead32_offset (register : DoeRegister) (d : DoeDevice) :
    spdmDevPciCfgDoeRead32 register.offset d = d.load register := by
  rw [spdmDevPciCfgDoeRead32, pciCfgRead32, registerAt_offset]

@[simp] theorem doeWrite32_offset (register : DoeRegister) (value : UInt32) (d : DoeDevice) :
    spdmDevPciCfgDoeWrite32 register.offset value d = d.store register value := by
  rw [spdmDevPciCfgDoeWrite32, pciCfgWrite32, registerAt_offset]

/-! ## Dwords and bytes -/

/-- The first `k` dwords of a message. -/
def dwords (order : ByteOrder) : Nat → Bytes → List UInt32
  | 0, _ => []
  | k + 1, bs => value32 order bs :: dwords order k (bs.drop 4)

@[simp] theorem length_dwords (order : ByteOrder) (k : Nat) (bs : Bytes) :
    (dwords order k bs).length = k := by
  induction k generalizing bs with
  | zero => rfl
  | succ k ih => simp [dwords, ih]

/-- No byte is lost between a message and its dwords. -/
theorem flatMap_dwords (order : ByteOrder) {k : Nat} {bs : Bytes} (h : bs.length = 4 * k) :
    (dwords order k bs).flatMap (bytes32 order) = bs := by
  induction k generalizing bs with
  | zero => exact (List.length_eq_zero_iff.1 (by omega)).symm
  | succ k ih =>
      have hfirst : (bs.take 4).length = 4 := by
        rw [List.length_take]
        omega
      have hvalue : value32 order bs = value32 order (bs.take 4) := by
        cases order <;> simp only [value32, List.take_take, Nat.min_self]
      have hrest : (bs.drop 4).length = 4 * k := by
        rw [List.length_drop]
        omega
      rw [dwords, List.flatMap_cons, ih hrest, hvalue, bytes32_value32 order hfirst,
        List.take_append_drop]

/-! ## The loops -/

/-- Pulling as many dwords as the mailbox holds at its front moves them to memory, in order. -/
theorem pullDwords_eq (order : ByteOrder) (msg : Nat) (xs rest : List UInt32) (index : Nat)
    (m : Mem) (d : DoeDevice) (h : d.writeMailbox = xs ++ rest) :
    pullDwords order msg xs.length index m d =
      (m.store (msg + 4 * index) (xs.flatMap (bytes32 order)),
        { d with writeMailbox := rest }) := by
  induction xs generalizing index m d with
  | nil =>
      rw [List.nil_append] at h
      subst h
      simp [pullDwords]
  | cons x xs ih =>
      have hload : d.load .writeDataMailbox = (x, { d with writeMailbox := xs ++ rest }) := by
        rw [DoeDevice.load, h]
        rfl
      have hnext : msg + 4 * (index + 1) = msg + 4 * index + (bytes32 order x).length := by
        rw [length_bytes32]
        omega
      simp only [List.length_cons, pullDwords, doeRead32_offset, hload]
      -- the next dword goes right behind this one
      rw [ih (index + 1) _ { d with writeMailbox := xs ++ rest } rfl, hnext, Mem.store_append,
        List.flatMap_cons]

/-- Pushing appends the dwords of the message to the read mailbox, in order, and writes nothing
else. -/
theorem pushDwords_eq (order : ByteOrder) (message : Bytes) (count index : Nat) (d : DoeDevice) :
    pushDwords order message count index d =
      let xs := dwords order count (message.drop (4 * index))
      { d with
        readMailbox := d.readMailbox ++ xs
        writes := d.writes ++ xs.map (Prod.mk .readDataMailbox) } := by
  induction count generalizing index d with
  | zero => simp [pushDwords, dwords]
  | succ count ih =>
      have hnext : (message.drop (4 * index)).drop 4 = message.drop (4 * (index + 1)) := by
        rw [List.drop_drop]
        congr 1
      rw [pushDwords, doeWrite32_offset, ih, dwords, hnext]
      simp [DoeDevice.store]

/-! ## The poll -/

/-- A poll that ends has only read the status register, up to a value without BUSY. -/
theorem waitNotBusy_eq_some {fuel : Nat} {d d' : DoeDevice} (h : waitNotBusy fuel d = some d') :
    ∃ i, d.status i &&& doeStatusBitBusy = 0 ∧
      d' = { d with status := fun n => d.status (n + (i + 1)) } := by
  induction fuel generalizing d with
  | zero => cases h
  | succ fuel ih =>
      simp only [waitNotBusy, doeRead32_offset, DoeDevice.load] at h
      split_ifs at h with hbusy
      · cases h
        exact ⟨0, hbusy, rfl⟩
      · obtain ⟨i, hi, rfl⟩ := ih h
        refine ⟨i + 1, hi, ?_⟩
        congr 1

/-- A poll ends once BUSY is seen clear. -/
theorem isSome_waitNotBusy {fuel i : Nat} {d : DoeDevice} (h : d.status i &&& doeStatusBitBusy = 0)
    (hfuel : i < fuel) : (waitNotBusy fuel d).isSome = true := by
  induction fuel generalizing d i with
  | zero => omega
  | succ fuel ih =>
      simp only [waitNotBusy, doeRead32_offset, DoeDevice.load]
      split_ifs with hbusy
      · rfl
      · cases i with
        | zero => exact absurd h hbusy
        | succ i => exact ih (i := i) h (by omega)

/-! ## The host -/

/-- The host pushes a dword into the write mailbox. -/
def DoeDevice.hostPush (d : DoeDevice) (x : UInt32) : DoeDevice :=
  { d with writeMailbox := d.writeMailbox ++ [x] }

/-- The host pushes a message dword by dword, and then sets GO. -/
def DoeDevice.hostSend (d : DoeDevice) (order : ByteOrder) (k : Nat) (message : Bytes) :
    DoeDevice :=
  let d := (dwords order k message).foldl DoeDevice.hostPush d
  { d with control := d.control ||| doeControlBitGo }

theorem foldl_hostPush (xs : List UInt32) (d : DoeDevice) :
    xs.foldl DoeDevice.hostPush d = { d with writeMailbox := d.writeMailbox ++ xs } := by
  induction xs generalizing d with
  | nil => simp
  | cons x xs ih => simp [ih, DoeDevice.hostPush]

theorem hostSend_eq (d : DoeDevice) (order : ByteOrder) (k : Nat) (message : Bytes) :
    d.hostSend order k message =
      { d with
        writeMailbox := d.writeMailbox ++ dwords order k message
        control := d.control ||| doeControlBitGo } := by
  rw [DoeDevice.hostSend, foldl_hostPush]

theorem or_go_and_go (control : UInt32) :
    (control ||| doeControlBitGo) &&& doeControlBitGo ≠ 0 := by
  have hself : (control ||| doeControlBitGo) &&& doeControlBitGo = doeControlBitGo := by
    apply UInt32.toBitVec_inj.mp
    ext i hi
    simp only [UInt32.toBitVec_and, UInt32.toBitVec_or, BitVec.getElem_and, BitVec.getElem_or]
    cases doeControlBitGo.toBitVec[i] <;> simp
  rw [hself]
  decide

/-! ## Receiving -/

/-- With GO set and BUSY clear, a call that passes the assertions pulls what the global size says
and reports that size. -/
theorem receive_eq (order : ByteOrder) (receiveFail : LibspdmReturn) (g : Globals)
    (messageSize : Nat) (d : DoeDevice) (hsize : g.sendReceiveBufferSize % 3 = 0)
    (hbusy : d.status 0 &&& doeStatusBitBusy = 0) (hgo : d.control &&& doeControlBitGo ≠ 0) :
    spdmResponderReceiveMessage order receiveFail g g.sendReceiveBuffer messageSize d =
      let pulled := pullDwords order g.sendReceiveBuffer (g.sendReceiveBufferSize / 4) 0 g.memory
        { d with status := fun n => d.status (n + 1) }
      .returned ⟨.success, g.sendReceiveBufferSize, { g with memory := pulled.1 },
        pulled.2.store .control 0⟩ := by
  simp [spdmResponderReceiveMessage, DoeDevice.load, hsize, hbusy, hgo]

/-- The call returned SUCCESS with the size and the bytes of the message, and GO is clear. -/
def Received (g : Globals) (message : Bytes) (result : Ended ReceiveResult) : Prop :=
  ∃ r, result = .returned r ∧ r.status = .success ∧ r.messageSize = message.length ∧
    r.globals.memory.load g.sendReceiveBuffer message.length = message ∧
    r.device.control &&& doeControlBitGo = 0

/-- A message is received exactly if the global size is its size, and a multiple of 3. -/
theorem received_iff (order : ByteOrder) (receiveFail : LibspdmReturn) {k : Nat} {message : Bytes}
    (hlength : message.length = 4 * k) (g : Globals) (messageSize : Nat) {d : DoeDevice}
    (hempty : d.writeMailbox = []) (hbusy : d.status 0 &&& doeStatusBitBusy = 0) :
    Received g message (spdmResponderReceiveMessage order receiveFail g g.sendReceiveBuffer
      messageSize (d.hostSend order k message)) ↔
        g.sendReceiveBufferSize = message.length ∧ 3 ∣ message.length := by
  have hstatus : (d.hostSend order k message).status 0 &&& doeStatusBitBusy = 0 := by
    rw [hostSend_eq]
    exact hbusy
  have hgo : (d.hostSend order k message).control &&& doeControlBitGo ≠ 0 := by
    rw [hostSend_eq]
    exact or_go_and_go d.control
  by_cases hassert : g.sendReceiveBufferSize % 3 = 0
  · rw [receive_eq order receiveFail g messageSize _ hassert hstatus hgo]
    constructor
    · rintro ⟨r, hr, -, hreported, -⟩
      cases hr
      exact ⟨hreported, hreported ▸ Nat.dvd_of_mod_eq_zero hassert⟩
    · rintro ⟨hsize, -⟩
      have hcount : g.sendReceiveBufferSize / 4 = (dwords order k message).length := by
        rw [length_dwords, hsize, hlength]
        omega
      have hmailbox : (d.hostSend order k message).writeMailbox =
          dwords order k message ++ [] := by
        rw [hostSend_eq, hempty]
        simp
      have hpull := pullDwords_eq order g.sendReceiveBuffer (dwords order k message) [] 0 g.memory
        { d.hostSend order k message with
          status := fun n => (d.hostSend order k message).status (n + 1) } hmailbox
      rw [Nat.mul_zero, Nat.add_zero, flatMap_dwords order hlength] at hpull
      rw [hcount, hpull]
      exact ⟨_, rfl, rfl, hsize, Mem.load_store _ _ _, by simp [DoeDevice.store]⟩
  · constructor
    · rintro ⟨r, hr, -⟩
      simp [spdmResponderReceiveMessage, hassert] at hr
    · rintro ⟨hsize, hthree⟩
      exact absurd (Nat.mod_eq_zero_of_dvd (hsize ▸ hthree)) hassert

/-! ## Sending -/

/-- The call returned SUCCESS, and its register writes are the dwords of the message to the read
mailbox, in order, and then DATA_READY. -/
def Sent (order : ByteOrder) (k : Nat) (message : Bytes) (d : DoeDevice)
    (result : Ended (LibspdmReturn × DoeDevice)) : Prop :=
  ∃ d', result = .returned (.success, d') ∧
    d'.readMailbox = d.readMailbox ++ dwords order k message ∧
    d'.writes = d.writes ++ (dwords order k message).map (Prod.mk .readDataMailbox) ++
      [(.status, doeStatusBitDataReady)]

/-- A call that passes the assertion and sees BUSY clear sends the message. -/
theorem sent_of_waited {order : ByteOrder} {fuel k : Nat} {message : Bytes} {d d' : DoeDevice}
    (hlength : message.length = 4 * k) (hassert : message.length % 3 = 0)
    (hwait : waitNotBusy fuel d = some d') :
    Sent order k message d (spdmResponderSendMessage order fuel message d) := by
  obtain ⟨i, -, rfl⟩ := waitNotBusy_eq_some hwait
  have hcount : message.length / 4 = k := by omega
  have hcall : spdmResponderSendMessage order fuel message d =
      .returned (.success, (pushDwords order message k 0
        { d with status := fun n => d.status (n + (i + 1)) }).store .status
          doeStatusBitDataReady) := by
    rw [spdmResponderSendMessage, if_neg (not_not.mpr hassert), hwait]
    simp only [hcount, doeWrite32_offset]
  rw [hcall, pushDwords_eq]
  exact ⟨_, rfl, by simp [DoeDevice.store], by simp [DoeDevice.store]⟩

/-- A message is sent by every long enough run exactly if its size is a multiple of 3 and BUSY is
seen clear at some poll. -/
theorem sent_iff (order : ByteOrder) {k : Nat} {message : Bytes} (hlength : message.length = 4 * k)
    (d : DoeDevice) :
    (∃ n, ∀ fuel ≥ n, Sent order k message d (spdmResponderSendMessage order fuel message d)) ↔
      3 ∣ message.length ∧ ∃ i, d.status i &&& doeStatusBitBusy = 0 := by
  constructor
  · rintro ⟨n, hsent⟩
    obtain ⟨d', hreturned, -⟩ := hsent n (Nat.le_refl n)
    by_cases hassert : message.length % 3 = 0
    · rw [spdmResponderSendMessage, if_neg (not_not.mpr hassert)] at hreturned
      cases hwait : waitNotBusy n d with
      | none =>
          rw [hwait] at hreturned
          cases hreturned
      | some waited =>
          obtain ⟨i, hclear, -⟩ := waitNotBusy_eq_some hwait
          exact ⟨Nat.dvd_of_mod_eq_zero hassert, i, hclear⟩
    · rw [spdmResponderSendMessage, if_pos hassert] at hreturned
      cases hreturned
  · rintro ⟨hthree, i, hclear⟩
    refine ⟨i + 1, fun fuel hfuel => ?_⟩
    obtain ⟨d', hwait⟩ := Option.isSome_iff_exists.mp (isSome_waitNotBusy hclear hfuel)
    exact sent_of_waited hlength (Nat.mod_eq_zero_of_dvd hthree) hwait

/-! ## Lossless transfers -/

/-- **When the mailbox transfers are lossless.** A message of the host is received exactly if
`m_send_receive_buffer_size` is its size and 3 divides it. A response is sent exactly if 3 divides
its size and BUSY is seen clear at some poll. -/
theorem mailbox_lossless_iff (order : ByteOrder) (receiveFail : LibspdmReturn) (k : Nat)
    (message : Bytes) (hlength : message.length = 4 * k) :
    (∀ (g : Globals) (messageSize : Nat) (d : DoeDevice), d.writeMailbox = [] →
      d.status 0 &&& doeStatusBitBusy = 0 →
      (Received g message (spdmResponderReceiveMessage order receiveFail g g.sendReceiveBuffer
        messageSize (d.hostSend order k message)) ↔
          g.sendReceiveBufferSize = message.length ∧ 3 ∣ message.length)) ∧
    (∀ d : DoeDevice,
      (∃ n, ∀ fuel ≥ n, Sent order k message d (spdmResponderSendMessage order fuel message d)) ↔
        3 ∣ message.length ∧ ∃ i, d.status i &&& doeStatusBitBusy = 0) := by
  constructor
  · intro g messageSize d hempty hbusy
    exact received_iff order receiveFail hlength g messageSize hempty hbusy
  · exact sent_iff order hlength

/-- An idle device, and global variables with a given size of the last message. -/
private def idleDevice : DoeDevice := ⟨0, fun _ => 0, [], 0, [], []⟩

private def globalsOfSize (size : Nat) : Globals := ⟨true, 0x1000, size, fun _ => 0⟩

/-- Twelve bytes, with the global size set by hand to 12, arrive and are sent. -/
theorem mailbox_lossless_twelve :
    Received (globalsOfSize 12) [1, 2, 3, 4, 5, 6, 7, 8, 9, 10, 11, 12]
      (spdmResponderReceiveMessage .little .errorPeer (globalsOfSize 12) 0x1000 0
        (idleDevice.hostSend .little 3 [1, 2, 3, 4, 5, 6, 7, 8, 9, 10, 11, 12])) ∧
    ∃ n, ∀ fuel ≥ n, Sent .little 3 [1, 2, 3, 4, 5, 6, 7, 8, 9, 10, 11, 12] idleDevice
      (spdmResponderSendMessage .little fuel [1, 2, 3, 4, 5, 6, 7, 8, 9, 10, 11, 12]
        idleDevice) := by
  have hlossless := mailbox_lossless_iff .little .errorPeer 3
    [1, 2, 3, 4, 5, 6, 7, 8, 9, 10, 11, 12] rfl
  exact ⟨(hlossless.1 (globalsOfSize 12) 0 idleDevice rfl rfl).mpr ⟨rfl, by decide⟩,
    (hlossless.2 idleDevice).mpr ⟨by decide, 0, rfl⟩⟩

/-- **Transfers that are not lossless.** With the global size of the start of the program, a
message of 4 bytes is answered with SUCCESS and a size of 0. With the right size, and in a send of
4 bytes, an assertion fails. -/
theorem mailbox_not_lossless :
    (∃ r, spdmResponderReceiveMessage .little .errorPeer (globalsOfSize 0) 0x1000 0
        (idleDevice.hostSend .little 1 [1, 2, 3, 4]) = .returned r ∧ r.status = .success ∧
          r.messageSize = 0) ∧
    spdmResponderReceiveMessage .little .errorPeer (globalsOfSize 4) 0x1000 0
      (idleDevice.hostSend .little 1 [1, 2, 3, 4]) = .assertion ∧
    ∀ fuel, spdmResponderSendMessage .little fuel [1, 2, 3, 4] idleDevice = .assertion :=
  ⟨⟨_, rfl, rfl, rfl⟩, rfl, fun _ => rfl⟩

/-! ## The size over a run of the program -/

/-- The body of the two functions that acquire the buffer; `capacity` is
`LIBSPDM_MAX_SENDER_RECEIVER_BUFFER_SIZE`. -/
def acquireBuffer (capacity : Nat) (g : Globals) : Ended (Nat × Globals) :=
  if g.sendReceiveBufferAcquired then .assertion
  else .returned (g.sendReceiveBuffer,
    { g with
      memory := g.memory.store g.sendReceiveBuffer (List.replicate capacity 0)
      sendReceiveBufferAcquired := true })

/-- The body of the two functions that release the buffer. -/
def releaseBuffer (msgBufPtr : Nat) (g : Globals) : Ended Globals :=
  if !g.sendReceiveBufferAcquired then .assertion
  else if msgBufPtr ≠ g.sendReceiveBuffer then .assertion
  else .returned { g with sendReceiveBufferAcquired := false }

/-- `spdm_device_acquire_sender_buffer` -/
def spdmDeviceAcquireSenderBuffer := acquireBuffer

/-- `spdm_device_release_sender_buffer` -/
def spdmDeviceReleaseSenderBuffer := releaseBuffer

/-- `spdm_device_acquire_receiver_buffer` -/
def spdmDeviceAcquireReceiverBuffer := acquireBuffer

/-- `spdm_device_release_receiver_buffer` -/
def spdmDeviceReleaseReceiverBuffer := releaseBuffer

/-- A call of one of the functions that use the global variables, or a change of the registers by
the host and the hardware. -/
inductive DeviceCall where
  | acquireSender
  | releaseSender (msgBufPtr : Nat)
  | acquireReceiver
  | releaseReceiver (msgBufPtr : Nat)
  | send (fuel : Nat) (message : Bytes)
  | receive (message messageSize : Nat)
  | registers (d : DoeDevice)

/-- The result of a call, or `other` if it does not return. -/
def Ended.getD {α : Type} (other : α) : Ended α → α
  | .returned a => a
  | .assertion => other
  | .waiting => other

/-- The program as a machine. A call that does not return leaves the state as it is. -/
def deviceMachine (order : ByteOrder) (receiveFail : LibspdmReturn) (capacity : Nat) :
    Machine (Globals × DoeDevice) DeviceCall Unit where
  step s call :=
    let (g, d) := s
    match call with
    | .acquireSender => ((), ((spdmDeviceAcquireSenderBuffer capacity g).getD (0, g)).2, d)
    | .releaseSender msgBufPtr => ((), (spdmDeviceReleaseSenderBuffer msgBufPtr g).getD g, d)
    | .acquireReceiver => ((), ((spdmDeviceAcquireReceiverBuffer capacity g).getD (0, g)).2, d)
    | .releaseReceiver msgBufPtr => ((), (spdmDeviceReleaseReceiverBuffer msgBufPtr g).getD g, d)
    | .send fuel message =>
        ((), g, ((spdmResponderSendMessage order fuel message d).getD (.success, d)).2)
    | .receive message messageSize =>
        let r := (spdmResponderReceiveMessage order receiveFail g message messageSize d).getD
          ⟨receiveFail, messageSize, g, d⟩
        ((), r.globals, r.device)
    | .registers d => ((), g, d)

section Size

variable (order : ByteOrder) (receiveFail : LibspdmReturn) (capacity : Nat)

theorem size_acquireBuffer (g : Globals) :
    ((acquireBuffer capacity g).getD (0, g)).2.sendReceiveBufferSize = g.sendReceiveBufferSize := by
  unfold acquireBuffer
  split <;> rfl

theorem size_releaseBuffer (msgBufPtr : Nat) (g : Globals) :
    ((releaseBuffer msgBufPtr g).getD g).sendReceiveBufferSize = g.sendReceiveBufferSize := by
  unfold releaseBuffer
  split_ifs <;> rfl

theorem size_receive (g : Globals) (message messageSize : Nat) (d : DoeDevice) :
    ((spdmResponderReceiveMessage order receiveFail g message messageSize d).getD
      ⟨receiveFail, messageSize, g, d⟩).globals.sendReceiveBufferSize =
        g.sendReceiveBufferSize := by
  simp only [spdmResponderReceiveMessage]
  split_ifs <;> rfl

/-- No call writes the size. -/
theorem size_step (s : Globals × DoeDevice) (call : DeviceCall) :
    ((deviceMachine order receiveFail capacity).step s call).2.1.sendReceiveBufferSize =
      s.1.sendReceiveBufferSize := by
  cases call with
  | acquireSender => exact size_acquireBuffer capacity s.1
  | releaseSender msgBufPtr => exact size_releaseBuffer msgBufPtr s.1
  | acquireReceiver => exact size_acquireBuffer capacity s.1
  | releaseReceiver msgBufPtr => exact size_releaseBuffer msgBufPtr s.1
  | send fuel message => rfl
  | receive message messageSize =>
      exact size_receive order receiveFail s.1 message messageSize s.2
  | registers d => rfl

/-- The size is 0 over every run from the start of the program, where the variable is zero. -/
theorem size_after {s : Globals × DoeDevice} (hstart : s.1.sendReceiveBufferSize = 0)
    (calls : List DeviceCall) :
    ((deviceMachine order receiveFail capacity).after s calls).1.sendReceiveBufferSize = 0 := by
  refine (deviceMachine order receiveFail capacity).invariant_after
    (fun s => s.1.sendReceiveBufferSize = 0) ?_ hstart calls
  intro s call hsize
  rw [size_step, hsize]

/-- **No message is ever received.** After any run of the program, a message of the host with at
least one dword does not arrive. -/
theorem not_received_after {s : Globals × DoeDevice} (hstart : s.1.sendReceiveBufferSize = 0)
    (calls : List DeviceCall) {k : Nat} (hk : 0 < k) {message : Bytes}
    (hlength : message.length = 4 * k) (messageSize : Nat)
    (hempty : ((deviceMachine order receiveFail capacity).after s calls).2.writeMailbox = [])
    (hbusy : ((deviceMachine order receiveFail capacity).after s calls).2.status 0 &&&
      doeStatusBitBusy = 0) :
    let (g, d) := (deviceMachine order receiveFail capacity).after s calls
    ¬ Received g message (spdmResponderReceiveMessage order receiveFail g g.sendReceiveBuffer
      messageSize (d.hostSend order k message)) := by
  intro hreceived
  have hsize := ((received_iff order receiveFail hlength _ messageSize hempty hbusy).mp
    hreceived).1
  rw [size_after order receiveFail capacity hstart calls] at hsize
  omega

end Size

end SpdmEmu.Device
