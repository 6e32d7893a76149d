import SpwBridge.Library.Words
import SpwBridge.Rmap.Packet

namespace spw_bridge.rmap

/-- Header construction. Without a buffer (`hdr` false) only the size is
returned; with one, the size and the bytes written to it from its start. -/
def rmap_build_hdr (pkt : RmapPkt) (hdr : Bool) : Except Fault (Int × List UInt8) :=
  if !hdr then
    .ok (rmap_get_min_hdr_size pkt + pkt.path_len + pkt.rpath_len, [])
  else do
    let path ← read_loop pkt.path 0 pkt.path_len
    let front := path ++ [pkt.dst, pkt.proto_id, pkt.instruction, pkt.key]
    let rpath ← read_loop pkt.rpath 0 pkt.rpath_len
    let middle := front ++ rpath ++ [pkt.src, (pkt.tr_id >>> 8).toUInt8, pkt.tr_id.toUInt8]
    let len := [(pkt.data_len >>> 16).toUInt8, (pkt.data_len >>> 8).toUInt8, pkt.data_len.toUInt8]
    if pkt.ri.cmd_resp then
      let bytes := middle ++ [(0x0 : UInt8), (pkt.addr >>> 24).toUInt8, (pkt.addr >>> 16).toUInt8,
        (pkt.addr >>> 8).toUInt8, pkt.addr.toUInt8] ++ len
      .ok (bytes.length, bytes)
    else if !pkt.ri.cmd_resp && pkt.ri.writeBit then
      .ok (middle.length, middle)
    else
      let bytes := middle ++ [(0x0 : UInt8)] ++ len
      .ok (bytes.length, bytes)

/-- The header fields after the reply path. -/
def RmapPkt.hdrTail (pkt : RmapPkt) : List UInt8 :=
  [pkt.src, (pkt.tr_id >>> 8).toUInt8, pkt.tr_id.toUInt8] ++
    if pkt.ri.cmd_resp then
      [(0x0 : UInt8), (pkt.addr >>> 24).toUInt8, (pkt.addr >>> 16).toUInt8, (pkt.addr >>> 8).toUInt8, pkt.addr.toUInt8,
        (pkt.data_len >>> 16).toUInt8, (pkt.data_len >>> 8).toUInt8, pkt.data_len.toUInt8]
    else if pkt.ri.writeBit then []
    else [(0x0 : UInt8), (pkt.data_len >>> 16).toUInt8, (pkt.data_len >>> 8).toUInt8, pkt.data_len.toUInt8]

/-- The header as the target sees it, with the target path consumed. -/
def RmapPkt.header (pkt : RmapPkt) : List UInt8 :=
  [pkt.dst, pkt.proto_id, pkt.instruction, pkt.key] ++ pkt.replyPath ++ pkt.hdrTail

/-- Both path arrays hold at least the entries in use. -/
structure RmapPkt.PathsFit (pkt : RmapPkt) : Prop where
  path : pkt.path_len ≤ (pkt.path.getD []).length
  rpath : pkt.rpath_len ≤ (pkt.rpath.getD []).length

theorem read_loop_getD {ptr : Option (List UInt8)} {n : Nat} (h : n ≤ (ptr.getD []).length) :
    read_loop ptr 0 n = .ok ((ptr.getD []).take n) := by
  cases ptr with
  | none =>
    have hzero : n = 0 := by simpa using h
    simp [hzero, read_loop]
  | some buf =>
    have hread : 0 + n ≤ buf.length := by simpa using h
    simpa using read_loop_ok hread

/-- The header builder writes the target path and then the header. -/
theorem rmap_build_hdr_eq {pkt : RmapPkt} (hfit : pkt.PathsFit) :
    rmap_build_hdr pkt true =
      .ok ((pkt.targetPath ++ pkt.header).length, pkt.targetPath ++ pkt.header) := by
  unfold rmap_build_hdr RmapPkt.header RmapPkt.hdrTail RmapPkt.targetPath RmapPkt.replyPath
  rw [read_loop_getD hfit.path, read_loop_getD hfit.rpath]
  cases pkt.ri.cmd_resp <;> cases pkt.ri.writeBit <;> simp

theorem RmapPkt.targetPath_length {pkt : RmapPkt} (hfit : pkt.PathsFit) :
    pkt.targetPath.length = pkt.path_len := by
  simpa [RmapPkt.targetPath] using hfit.path

theorem RmapPkt.replyPath_length {pkt : RmapPkt} (hfit : pkt.PathsFit) :
    pkt.replyPath.length = pkt.rpath_len := by
  simpa [RmapPkt.replyPath] using hfit.rpath

theorem RmapPkt.header_length {pkt : RmapPkt} (hfit : pkt.PathsFit) :
    pkt.header.length = pkt.ri.minHdrSize + pkt.rpath_len := by
  simp only [RmapPkt.header, RmapPkt.hdrTail, RmapInstruction.minHdrSize, List.length_append,
    RmapPkt.replyPath_length hfit]
  cases pkt.ri.cmd_resp <;> cases pkt.ri.writeBit <;> simp <;> omega

end spw_bridge.rmap
