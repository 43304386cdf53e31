import ScriptBundle.Payload.Basic
import ScriptBundle.Proofs.Payload.Base64
import ScriptBundle.Proofs.Payload.Blocks

namespace ScriptBundle.Payload

/-! ## Bytes -/

theorem bitsOfBytes_compress (bytes : List UInt8) :
    ∃ zeros < 8, bitsOfBytes (bytesOfBits (Deflate.deflate bytes.toArray) ++ checksumBytes bytes) =
      Deflate.deflate bytes.toArray ++ (List.replicate zeros false ++
        bitsOfBytes (checksumBytes bytes)) := by
  obtain ⟨zeros, hzeros, hbits, -⟩ := bitsOfBytes_bytesOfBits (Deflate.deflate bytes.toArray)
  exact ⟨zeros, hzeros, by rw [bitsOfBytes_append, hbits, List.append_assoc]⟩

/-- Compressed bytes are read back. -/
theorem decompress_compress (bytes : List UInt8) : decompress (compress bytes) = some bytes := by
  obtain ⟨zeros, hzeros, hbits⟩ := bitsOfBytes_compress bytes
  have hheader : isHeader 0x78 0xDA = true := by decide
  have hdata := Deflate.reads_deflate bytes.toArray
    (List.replicate zeros false ++ bitsOfBytes (checksumBytes bytes))
  have hsum : (BitReading.bytes 4).run (bitsOfBytes (checksumBytes bytes)) =
      some (checksumBytes bytes, []) := by
    have hread := reads_bytes (checksumBytes bytes) []
    rwa [List.append_nil] at hread
  simp only [compress, header, List.cons_append, List.nil_append, decompress, hheader, hbits, hdata,
    align_run hzeros, hsum, guard, if_true, Option.pure_def, Option.bind_eq_bind, Option.bind_some]

/-! ## Texts -/

theorem toList_loop (bytes : ByteArray) (i : Nat) (done : List UInt8) :
    ByteArray.toList.loop bytes i done = done.reverse ++ bytes.data.toList.drop i := by
  induction i, done using ByteArray.toList.loop.induct bytes with
  | case1 i done hlt ih =>
    have hlt' : i < bytes.data.toList.length := hlt
    have hget : bytes.get! i = bytes.data.toList[i] := by
      rw [ByteArray.get!, getElem!_pos bytes.data i hlt]
      exact (Array.getElem_toList hlt).symm
    rw [ByteArray.toList.loop, if_pos hlt, ih, List.reverse_cons, List.append_assoc,
      List.singleton_append, hget, List.getElem_cons_drop]
  | case2 i done hge =>
    have hge' : bytes.data.toList.length ≤ i := Nat.le_of_not_lt hge
    rw [ByteArray.toList.loop, if_neg hge, List.drop_of_length_le hge', List.append_nil]

/-- The text of the bytes of a text is the text. -/
theorem textOfBytes?_toUTF8 (source : String) :
    textOfBytes? source.toUTF8.toList = some source := by
  have hbytes : (⟨source.toUTF8.toList.toArray⟩ : ByteArray) = source.toUTF8 := by
    rw [ByteArray.toList, toList_loop]
    simp
  have hvalid : source.toUTF8.IsValidUTF8 := source.isValidUTF8
  rw [textOfBytes?, hbytes, String.fromUTF8?, dif_pos hvalid]
  rfl

/-- The payload of a source holds the source. -/
theorem decode_encode (source : String) : decode (encode source) = .ok source := by
  rw [decode, encode, String.toList_ofList, Base64.decode_encode]
  simp only [decompress_compress, Option.bind_some, textOfBytes?_toUTF8]

/-- **Every text survives its payload**, which is written in groups of four digits of base64, the
last one filled up. -/
theorem payload_round_trip (source : String) :
    Base64.Padded (encode source).toList ∧ decode (encode source) = .ok source := by
  refine ⟨?_, decode_encode source⟩
  rw [encode, String.toList_ofList]
  exact Base64.padded_encode _

end ScriptBundle.Payload
