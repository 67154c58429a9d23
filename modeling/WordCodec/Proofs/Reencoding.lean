import WordCodec.Proofs.Encoding

/-!
# Packing what was read

A word that holds an instruction need not be the word of that instruction: the decoder does not
look at stray bits, and the builders leave them clear.  So reading and packing again **clears the
stray bits and does nothing else**.

* `Word.definedPart` — a word without its stray bits.  It decodes to the same payload.
* `Instruction.encode_of_ofWord` — the word of the instruction that was read is the defined part of
  the word it was read from.
* `Instruction.normal_of_ofWord` — what was read fits its fields, so that no encoder has anything
  to cut down or to refuse.

For a program this means that packing it again settles it: the new image decodes like the old one,
and it is the image of itself.
-/

namespace WordCodec

namespace Word

/-- The bits of a word that its format defines. -/
def definedPart (word : Word) : Word := word &&& (Word.format word).definedBits

/-- Whether a word holds an instruction. -/
def Resolves (word : Word) : Prop :=
  ∃ instruction, (Instruction.ofWord word).result = .ok instruction

/-- Reads the instruction of a word and packs it again. -/
def reencode (word : Word) : Checked Word := do
  let instruction ← Instruction.ofWord word
  pure instruction.encode

/-! ## The defined part of a word -/

lemma definedPart_eq (word : Word) : definedPart word = word &&& (Word.format word).mask := by
  rw [definedPart, Format.mask_eq_definedBits]

/-- A word has no stray bits exactly when it is its own defined part. -/
lemma definedPart_eq_self_iff (word : Word) :
    definedPart word = word ↔ word &&& ~~~(Word.format word).definedBits = 0 := by
  rw [and_not_eq_zero_iff, definedPart]

lemma decode_definedPart (word : Word) : Word.decode (definedPart word) = Word.decode word := by
  refine (decode_congr fun field hfield => ?_).symm
  rw [definedPart_eq, Format.get_and_mask hfield]

lemma format_definedPart (word : Word) : Word.format (definedPart word) = Word.format word := by
  rw [← Payload.format_decode, decode_definedPart, Payload.format_decode]

lemma definedPart_definedPart (word : Word) :
    definedPart (definedPart word) = definedPart word := by
  calc definedPart (definedPart word)
      = definedPart word &&& (Word.format word).definedBits := by
        rw [definedPart, format_definedPart]
    _ = definedPart word := by
        rw [definedPart, UInt64.and_assoc, UInt64.and_self]

lemma ofWord_definedPart (word : Word) :
    Instruction.ofWord (definedPart word) = Instruction.ofWord word := by
  rw [Instruction.ofWord, decode_definedPart, Instruction.ofWord]

lemma resolves_definedPart {word : Word} (h : Resolves word) : Resolves (definedPart word) := by
  obtain ⟨instruction, hread⟩ := h
  refine ⟨instruction, ?_⟩
  rw [ofWord_definedPart, hread]

end Word

namespace Instruction

variable {word : Word} {instruction : Instruction}

/-! ## What was read from a word -/

lemma payload_of_ofWord (h : (ofWord word).result = .ok instruction) :
    instruction.payload = Word.decode word :=
  ofPayload_eq_ok_iff.mp h

/-- **Packing what was read** gives the word without its stray bits. -/
lemma encode_of_ofWord (h : (ofWord word).result = .ok instruction) :
    instruction.encode = word.definedPart := by
  rw [encode_eq_word, payload_of_ofWord h, Payload.word_decode, Word.definedPart_eq]

/-- A word that holds an instruction is read in silence. -/
lemma ofWord_of_result (h : (ofWord word).result = .ok instruction) :
    ofWord word = Checked.succeed instruction := by
  rw [ofWord, ← payload_of_ofWord h, ofPayload_payload]

/-- **What was read fits**: a field yields no more bits than it holds. -/
lemma normal_of_ofWord (h : (ofWord word).result = .ok instruction) :
    instruction.normal = instruction := by
  have hagain : ofWord instruction.encode = Checked.succeed instruction := by
    rw [encode_of_ofWord h, Word.ofWord_definedPart, ofWord_of_result h]
  rw [ofWord_encode] at hagain
  exact Except.ok.inj (congrArg Checked.result hagain)

/-- **The words of instructions** are those that hold an instruction and have no stray bits. -/
lemma exists_encode_eq_iff (word : Word) :
    (∃ instruction : Instruction, instruction.encode = word)
      ↔ word.Resolves ∧ word &&& ~~~(Word.format word).definedBits = 0 := by
  rw [← Word.definedPart_eq_self_iff]
  constructor
  · rintro ⟨instruction, rfl⟩
    have hread : (ofWord instruction.encode).result = .ok instruction.normal := by
      rw [ofWord_encode]
      rfl
    refine ⟨⟨instruction.normal, hread⟩, ?_⟩
    rw [← encode_of_ofWord hread, encode_normal]
  · rintro ⟨⟨instruction, hread⟩, hdefined⟩
    exact ⟨instruction, by rw [encode_of_ofWord hread, hdefined]⟩

end Instruction

/-! ## Programs -/

/-- Packs every word of a program again; a word that holds no instruction is an error. -/
def reencodeAll (words : List Word) : Checked (List Word) := words.mapM Word.reencode

lemma Word.reencode_of_resolves {word : Word} (h : word.Resolves) :
    word.reencode = Checked.succeed word.definedPart := by
  obtain ⟨instruction, hread⟩ := h
  rw [reencode, Instruction.ofWord_of_result hread, Checked.succeed_bind,
    Instruction.encode_of_ofWord hread]
  rfl

lemma reencodeAll_of_resolves {words : List Word} (h : ∀ word ∈ words, word.Resolves) :
    reencodeAll words = Checked.succeed (words.map Word.definedPart) :=
  Checked.mapM_of_forall_succeed fun word hword => Word.reencode_of_resolves (h word hword)

lemma decodeAll_map_definedPart (words : List Word) :
    decodeAll (words.map Word.definedPart) = decodeAll words := by
  rw [decodeAll, decodeAll, List.map_map]
  exact List.map_congr_left fun word _ => word.decode_definedPart

/-- The image of a program is a program, and packing it again changes nothing. -/
lemma reencodeAll_map_definedPart {words : List Word} (h : ∀ word ∈ words, word.Resolves) :
    reencodeAll (words.map Word.definedPart) = Checked.succeed (words.map Word.definedPart) := by
  have himage : ∀ word ∈ words.map Word.definedPart, word.Resolves := by
    intro word hword
    obtain ⟨original, horiginal, rfl⟩ := List.mem_map.mp hword
    exact Word.resolves_definedPart (h original horiginal)
  rw [reencodeAll_of_resolves himage, List.map_map]
  congr 1
  exact List.map_congr_left fun word _ => word.definedPart_definedPart

/-- **Encoding undoes decoding on the bits that a format defines.**  The instruction that a word
holds is packed into the word without its stray bits, by the builders and by both checked encoders,
which log nothing.  The words without stray bits are therefore just the words of instructions, and
packing a program again keeps its decoding and is settled after one time. -/
theorem encoding_undoes_decoding :
    (∀ (word : Word) (instruction : Instruction),
        (Instruction.ofWord word).result = .ok instruction →
          instruction.encode = word &&& (Word.format word).definedBits
            ∧ Encoder.strict.encode instruction = Checked.succeed instruction.encode
            ∧ Encoder.standard.encode instruction = Checked.succeed instruction.encode)
      ∧ (∀ word : Word, (∃ instruction : Instruction, instruction.encode = word)
          ↔ word.Resolves ∧ word &&& ~~~(Word.format word).definedBits = 0)
      ∧ ∀ words : List Word, (∀ word ∈ words, word.Resolves) →
          ∃ image, reencodeAll words = Checked.succeed image
            ∧ decodeAll image = decodeAll words
            ∧ reencodeAll image = Checked.succeed image := by
  refine ⟨fun word instruction h => ?_, Instruction.exists_encode_eq_iff, fun words h => ?_⟩
  · have hnormal : instruction.normal = instruction := Instruction.normal_of_ofWord h
    exact ⟨Instruction.encode_of_ofWord h, Encoder.strict.encode_of_normal hnormal,
      Encoder.standard.encode_of_normal hnormal⟩
  · exact ⟨words.map Word.definedPart, reencodeAll_of_resolves h,
      decodeAll_map_definedPart words, reencodeAll_map_definedPart h⟩

/-- Four words of a program, one of each format and each with stray bits; the branch among them
holds a branch by five words. -/
theorem encoding_undoes_decoding_of_stray_bits :
    (BranchOp.b.pack 5 = 0x980F000000000005 &&& Format.branch.definedBits)
      ∧ ∃ image,
        reencodeAll [0x08002B1C03FFFFFF, 0x640023FFFFFFFFFF, 0x980F000000000005,
            0xDC00233300000010] = Checked.succeed image
          ∧ decodeAll image = decodeAll [0x08002B1C03FFFFFF, 0x640023FFFFFFFFFF,
            0x980F000000000005, 0xDC00233300000010]
          ∧ reencodeAll image = Checked.succeed image := by
  obtain ⟨hread, -, hprogram⟩ := encoding_undoes_decoding
  refine ⟨(hread 0x980F000000000005 (.branch .b 5) rfl).1, hprogram _ ?_⟩
  intro word hword
  simp only [List.mem_cons, List.not_mem_nil, or_false] at hword
  rcases hword with rfl | rfl | rfl | rfl
  · exact ⟨_, rfl⟩
  · exact ⟨_, rfl⟩
  · exact ⟨_, rfl⟩
  · exact ⟨_, rfl⟩

end WordCodec
