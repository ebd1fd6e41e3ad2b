import SpdmEmu.Wire.ByteOrder
import SpdmEmu.Wire.Memory
import SpdmEmu.Wire.Stream

/-!
# Platform messages over a socket

`spdm_emu/spdm_emu_common/command.c`: a platform message is a command, a transport type and a
payload length, each of four bytes in network order, and the payload. The functions that read and
write it loop over `recv` and `send`, and swap the bytes of a field in place to log it.

`dump_data` and the log lines are left out; the packet capture is kept as an event of the function
that appends to it or closes it.
-/

set_option autoImplicit false

namespace SpdmEmu.Socket

open SpdmEmu.Wire

/-- `SOCKET_TRANSPORT_TYPE_MCTP` -/
def transportTypeMctp : UInt32 := 0x01

/-- `SOCKET_SPDM_COMMAND_NORMAL` -/
def commandNormal : UInt32 := 0x0001

/-- `SOCKET_SPDM_COMMAND_SHUTDOWN` -/
def commandShutdown : UInt32 := 0xFFFE

/-- What a function does to the packet capture. -/
inductive PcapEvent where
  | closed
  /-- a packet, with or without an MCTP header before the data -/
  | appended (mctpHeader : Bool) (data : Bytes)
deriving DecidableEq, Repr

/-- The `switch` on the command at the end of sending and receiving. -/
def pcapEvent (mUseTransportLayer command : UInt32) (data : Bytes) : Option PcapEvent :=
  if command = commandShutdown then some .closed
  else if command = commandNormal then
    some (.appended (mUseTransportLayer == transportTypeMctp) data)
  else none

/-- `result == -1` for a result of `recv` or `send` kept in an `int32_t`. -/
def readsAsError (count : Nat) : Bool := count == 2 ^ 32 - 1

/-! ## Receiving -/

/-- `read_bytes`, from the loop's test with `numberReceived` bytes received. -/
def readBytes (p : Pieces) (socket : Incoming) (buffer : Mem) (numberReceived numberOfBytes : Nat) :
    Bool × Mem × Incoming :=
  if numberReceived < numberOfBytes then
    match recv p socket (numberOfBytes - numberReceived) with
    | (none, socket) => (false, buffer, socket)
    | (some bytes, socket) =>
        let buffer := buffer.store numberReceived bytes
        if readsAsError bytes.length then (false, buffer, socket)
        -- the peer closed the connection
        else if bytes.length = 0 then (false, buffer, socket)
        else readBytes p socket buffer (numberReceived + bytes.length) numberOfBytes
  else (true, buffer, socket)
termination_by numberOfBytes - numberReceived

/-- `read_data32` into a variable of the host. -/
def readData32 (host : ByteOrder) (p : Pieces) (socket : Incoming) : Option UInt32 × Incoming :=
  match readBytes p socket (fun _ => 0) 0 4 with
  | (false, _, socket) => (none, socket)
  | (true, data, socket) => (some (ntohl host (value32 host (data.load 0 4))), socket)

/-- What `read_multiple_bytes` leaves behind. -/
structure MultipleBytes where
  result : Bool
  buffer : Mem
  bytesReceived : UInt32
  socket : Incoming

/-- `read_multiple_bytes`, with the value `*bytes_received` has on entry. -/
def readMultipleBytes (host : ByteOrder) (p : Pieces) (socket : Incoming) (buffer : Mem)
    (bytesReceived maxBufferLength : UInt32) : MultipleBytes :=
  match readData32 host p socket with
  | (none, socket) => ⟨false, buffer, bytesReceived, socket⟩
  | (some length, socket) =>
      -- swapped to log it and swapped back
      let length := ntohl host length
      let length := ntohl host length
      if length > maxBufferLength then ⟨false, buffer, length, socket⟩
      else if length = 0 then ⟨true, buffer, length, socket⟩
      else
        let (result, buffer, socket) := readBytes p socket buffer 0 length.toNat
        ⟨result, buffer, length, socket⟩

/-- `receive_platform_command` -/
def receivePlatformCommand (host : ByteOrder) (p : Pieces) (socket : Incoming) :
    Option UInt32 × Incoming :=
  readData32 host p socket

/-- `receive_platform_transport_type` -/
def receivePlatformTransportType (host : ByteOrder) (p : Pieces) (socket : Incoming) :
    Option UInt32 × Incoming :=
  match readData32 host p socket with
  | (none, socket) => (none, socket)
  | (some transportType, socket) => (some (ntohl host (ntohl host transportType)), socket)

/-- What receiving a message leaves behind. -/
structure Received where
  result : Bool
  command : UInt32
  receiveBuffer : Mem
  bytesToReceive : Nat
  socket : Incoming
  pcap : Option PcapEvent

/-- `receive_platform_data`, whose buffer size is cut to 32 bits. -/
def receivePlatformData (host : ByteOrder) (p : Pieces) (mUseTransportLayer : UInt32)
    (socket : Incoming) (command : UInt32) (receiveBuffer : Mem) (bytesToReceive : Nat) :
    Received :=
  let r := readMultipleBytes host p socket receiveBuffer 0 (UInt32.ofNat bytesToReceive)
  if !r.result then ⟨false, command, r.buffer, bytesToReceive, r.socket, none⟩
  else if r.bytesReceived > UInt32.ofNat bytesToReceive then
    ⟨false, command, r.buffer, bytesToReceive, r.socket, none⟩
  else
    { result := true
      command := command
      receiveBuffer := r.buffer
      bytesToReceive := r.bytesReceived.toNat
      socket := r.socket
      pcap := pcapEvent mUseTransportLayer command (r.buffer.load 0 r.bytesReceived.toNat) }

/-- `receive_platform_message`, with the value `*command` has on entry. -/
def receivePlatformMessage (host : ByteOrder) (p : Pieces) (mUseTransportLayer : UInt32)
    (socket : Incoming) (command : UInt32) (receiveBuffer : Mem) (bytesToReceive : Nat) :
    Received :=
  match receivePlatformCommand host p socket with
  | (none, socket) => ⟨false, command, receiveBuffer, bytesToReceive, socket, none⟩
  | (some command, socket) =>
      match receivePlatformTransportType host p socket with
      | (none, socket) => ⟨false, command, receiveBuffer, bytesToReceive, socket, none⟩
      | (some transportType, socket) =>
          if transportType ≠ mUseTransportLayer then
            ⟨false, command, receiveBuffer, bytesToReceive, socket, none⟩
          else
            receivePlatformData host p mUseTransportLayer socket command receiveBuffer
              bytesToReceive

/-! ## Sending -/

/-- `write_bytes`, from the loop's test with the bytes of `buffer` left to send. -/
def writeBytes (p : Pieces) (socket : Outgoing) (buffer : Bytes) : Bool × Outgoing :=
  if buffer = [] then (true, socket)
  else
    match send p socket buffer with
    | (none, socket) => (false, socket)
    | (some count, socket) =>
        if readsAsError count.1 then (false, socket)
        else writeBytes p socket (buffer.drop count.1)
termination_by buffer.length
decreasing_by
  -- an accepted `send` of a nonempty buffer takes at least one byte
  have hlength : 0 < buffer.length := List.length_pos_iff.2 ‹_›
  have hcount := count.2.2 hlength
  rw [List.length_drop]
  omega

/-- `write_data32` -/
def writeData32 (host : ByteOrder) (p : Pieces) (socket : Outgoing) (data : UInt32) :
    Bool × Outgoing :=
  writeBytes p socket (bytes32 host (ntohl host data))

/-- `write_multiple_bytes`, whose length is a 32-bit value. -/
def writeMultipleBytes (host : ByteOrder) (p : Pieces) (socket : Outgoing) (buffer : Bytes)
    (bytesToSend : UInt32) : Bool × Outgoing :=
  match writeData32 host p socket bytesToSend with
  | (false, socket) => (false, socket)
  | (true, socket) =>
      let bytesToSend := ntohl host (ntohl host bytesToSend)
      writeBytes p socket (buffer.take bytesToSend.toNat)

/-- `send_platform_data` -/
def sendPlatformData (host : ByteOrder) (p : Pieces) (mUseTransportLayer : UInt32)
    (socket : Outgoing) (command : UInt32) (sendBuffer : Bytes) :
    Bool × Outgoing × Option PcapEvent :=
  match writeData32 host p socket command with
  | (false, socket) => (false, socket, none)
  | (true, socket) =>
      match writeData32 host p socket mUseTransportLayer with
      | (false, socket) => (false, socket, none)
      | (true, socket) =>
          match writeMultipleBytes host p socket sendBuffer (UInt32.ofNat sendBuffer.length) with
          | (false, socket) => (false, socket, none)
          | (true, socket) => (true, socket, pcapEvent mUseTransportLayer command sendBuffer)

end SpdmEmu.Socket
