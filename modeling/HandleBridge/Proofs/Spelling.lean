import HandleBridge.Text.CString

/-!
# Proofs/Spelling — a text that is spelled reads back

Every character reads back from its own bytes, whatever follows them (`Utf8.decodeFrom_spell`): the
lead byte says how many bytes are owed, and each of these adds six bits.  So a text reads back from
its bytes, and a text without zero characters from a string that a zero byte ends.

No other bytes read as a text throughout (`Utf8.decode?_eq_some_iff`): while no slot is empty, the
machine takes exactly the bytes of a character before it completes one.
-/

namespace HandleBridge

namespace Utf8

variable (bytes : List UInt8)

theorem decodeFrom_cons (p : Option Pending) {b : Nat} (hb : b < 256) :
    decodeFrom p (UInt8.ofNat b :: bytes) =
      (feed p b).1 ++ decodeFrom (feed p b).2 bytes := by
  have hbyte : (UInt8.ofNat b).toNat = b := by
    rw [UInt8.toNat_ofNat']
    exact Nat.mod_eq_of_lt hb
  cases p <;> rw [decodeFrom, hbyte]

/-! ## Bytes that continue a character -/

/-- The last byte of a character completes it. -/
theorem decodeFrom_last {low high bits x : Nat} (hlow : low ≤ x + 128) (hhigh : x + 128 ≤ high)
    (hx : x < 64) :
    decodeFrom (some ⟨low, high, 0, bits⟩) (UInt8.ofNat (x + 128) :: bytes) =
      some (Char.ofNat (bits * 64 + x)) :: decodeFrom none bytes := by
  rw [decodeFrom_cons bytes _ (by omega), feed, if_pos ⟨hlow, hhigh⟩, Nat.add_sub_cancel]
  rfl

/-- Any byte before it adds six bits. -/
theorem decodeFrom_next {low high owed bits x : Nat} (hlow : low ≤ x + 128)
    (hhigh : x + 128 ≤ high) (hx : x < 64) :
    decodeFrom (some ⟨low, high, owed + 1, bits⟩) (UInt8.ofNat (x + 128) :: bytes) =
      decodeFrom (some ⟨0x80, 0xBF, owed, bits * 64 + x⟩) bytes := by
  rw [decodeFrom_cons bytes _ (by omega), feed, if_pos ⟨hlow, hhigh⟩, Nat.add_sub_cancel]
  rfl

/-! ## Bytes that begin a character -/

theorem decodeFrom_lead {b : Nat} (hb : 128 ≤ b) (hb' : b < 256) {p : Pending}
    (hp : Pending.ofLead? b = some p) :
    decodeFrom none (UInt8.ofNat b :: bytes) = decodeFrom (some p) bytes := by
  rw [decodeFrom_cons bytes _ hb', feed, start, if_neg (by omega), hp]
  rfl

/-- What begins a character of two bytes. -/
theorem ofLead?_two {n : Nat} (hn : 2 ≤ n) (hn' : n < 32) :
    Pending.ofLead? (n + 192) = some ⟨0x80, 0xBF, 0, n⟩ := by
  rw [Pending.ofLead?, if_pos (by omega), Nat.add_sub_cancel]

/-- What begins a character of three bytes.  The bounds rule out what two bytes can spell, and
surrogates. -/
theorem ofLead?_three {n x : Nat} (hn : n < 16) (hnext : x < 64) (hshort : n = 0 → 32 ≤ x)
    (hsurrogate : n = 13 → x < 32) :
    ∃ low high, Pending.ofLead? (n + 224) = some ⟨low, high, 1, n⟩ ∧ low ≤ x + 128 ∧
      x + 128 ≤ high := by
  rw [Pending.ofLead?, if_neg (by omega)]
  rcases Nat.eq_zero_or_pos n with rfl | hpos
  · exact ⟨_, _, rfl, by omega, by omega⟩
  rw [if_neg (by omega)]
  by_cases hd : n = 13
  · subst hd
    exact ⟨_, _, rfl, by omega, by omega⟩
  · rw [if_neg (by omega), if_pos (by omega), Nat.add_sub_cancel]
    exact ⟨_, _, rfl, by omega, by omega⟩

/-- What begins a character of four bytes.  The bounds rule out what three bytes can spell, and what
lies past the last character. -/
theorem ofLead?_four {n x : Nat} (hn : n ≤ 4) (hnext : x < 64) (hshort : n = 0 → 16 ≤ x)
    (hlast : n = 4 → x < 16) :
    ∃ low high, Pending.ofLead? (n + 240) = some ⟨low, high, 2, n⟩ ∧ low ≤ x + 128 ∧
      x + 128 ≤ high := by
  rw [Pending.ofLead?, if_neg (by omega), if_neg (by omega), if_neg (by omega), if_neg (by omega)]
  rcases Nat.eq_zero_or_pos n with rfl | hpos
  · exact ⟨_, _, rfl, by omega, by omega⟩
  rw [if_neg (by omega)]
  by_cases hd : n = 4
  · subst hd
    exact ⟨_, _, rfl, by omega, by omega⟩
  · rw [if_pos (by omega), Nat.add_sub_cancel]
    exact ⟨_, _, rfl, by omega, by omega⟩

/-! ## Characters and texts -/

/-- **A character reads back from its bytes**, whatever follows them. -/
theorem decodeFrom_spell (c : Char) :
    decodeFrom none (String.utf8EncodeChar c ++ bytes) = some c :: decodeFrom none bytes := by
  have hvalid : c.toNat < 0xD800 ∨ 0xDFFF < c.toNat ∧ c.toNat < 0x110000 := c.valid
  have hc : Char.ofNat c.toNat = c := c.ofNat_toNat
  have hval : c.val.toNat = c.toNat := rfl
  unfold String.utf8EncodeChar
  rw [hval]
  generalize c.toNat = v at hvalid hc
  dsimp only
  split
  · rw [List.singleton_append, decodeFrom_cons bytes none (by omega), feed, start,
      if_pos (by omega), hc]
    rfl
  split
  · simp only [List.cons_append, List.nil_append]
    rw [decodeFrom_lead _ (by omega) (by omega) (ofLead?_two (by omega) (by omega)),
      decodeFrom_last bytes (by omega) (by omega) (by omega),
      show v / 64 % 32 * 64 + v % 64 = v by omega, hc]
  split
  · obtain ⟨low, high, hlead, hlow, hhigh⟩ := ofLead?_three (n := v / 4096 % 16) (x := v / 64 % 64)
      (by omega) (by omega) (by omega) (by omega)
    simp only [List.cons_append, List.nil_append]
    rw [decodeFrom_lead _ (by omega) (by omega) hlead,
      decodeFrom_next _ hlow hhigh (by omega),
      decodeFrom_last bytes (by omega) (by omega) (by omega),
      show (v / 4096 % 16 * 64 + v / 64 % 64) * 64 + v % 64 = v by omega, hc]
  · obtain ⟨low, high, hlead, hlow, hhigh⟩ := ofLead?_four (n := v / 262144 % 8)
      (x := v / 4096 % 64) (by omega) (by omega) (by omega) (by omega)
    simp only [List.cons_append, List.nil_append]
    rw [decodeFrom_lead _ (by omega) (by omega) hlead,
      decodeFrom_next _ hlow hhigh (by omega),
      decodeFrom_next _ (by omega) (by omega) (by omega),
      decodeFrom_last bytes (by omega) (by omega) (by omega),
      show ((v / 262144 % 8 * 64 + v / 4096 % 64) * 64 + v / 64 % 64) * 64 + v % 64 = v by omega,
      hc]

/-- **A text reads back from its bytes.** -/
theorem decode_encode (text : List Char) : decode (encode text) = text.map some := by
  induction text with
  | nil => rfl
  | cons c text ih =>
    have hspell : encode (c :: text) = String.utf8EncodeChar c ++ encode text := List.flatMap_cons
    rw [decode, hspell, decodeFrom_spell, ← decode, ih, List.map_cons]

theorem decodeLossy_encode (text : List Char) : decodeLossy (encode text) = text := by
  rw [decodeLossy, decode_encode, List.map_map]
  exact List.map_id text

/-- The bytes of a text are those that the text is stored as. -/
theorem encode_toList (text : String) : encode text.toList = text.toUTF8.data.toList := by
  rw [String.toUTF8, ← String.utf8Encode_toList, List.utf8Encode, List.toList_data_toByteArray,
    encode]

/-! ## Bytes that read throughout -/

/-- What a lead byte begins, by the number of bytes owed after the next one. -/
theorem ofLead?_cases {b : Nat} {p : Pending} (h : Pending.ofLead? b = some p) :
    128 ≤ p.low ∧ p.high ≤ 191 ∧
      (p.owed = 0 ∧ b = p.bits + 192 ∧ 2 ≤ p.bits ∧ p.bits < 32 ∨
       p.owed = 1 ∧ b = p.bits + 224 ∧ p.bits < 16 ∧ (p.bits = 0 → 160 ≤ p.low) ∧
        (p.bits = 13 → p.high ≤ 159) ∨
       p.owed = 2 ∧ b = p.bits + 240 ∧ p.bits ≤ 4 ∧ (p.bits = 0 → 144 ≤ p.low) ∧
        (p.bits = 4 → p.high ≤ 143)) := by
  unfold Pending.ofLead? at h
  repeat' split at h
  all_goals first | cases h; dsimp only; omega | cases h

/-- A byte that is owed is there and within its bounds, unless a slot is empty. -/
theorem exists_owed {p : Pending} {bytes : List UInt8} (hlow : 128 ≤ p.low) (hhigh : p.high ≤ 191)
    (h : none ∉ decodeFrom (some p) bytes) :
    ∃ x rest, bytes = UInt8.ofNat (x + 128) :: rest ∧ x < 64 ∧ p.low ≤ x + 128 ∧
      x + 128 ≤ p.high ∧ ∀ owed, p.owed = owed + 1 →
        none ∉ decodeFrom (some ⟨0x80, 0xBF, owed, p.bits * 64 + x⟩) rest := by
  cases bytes with
  | nil => exact absurd List.mem_cons_self h
  | cons b rest =>
    by_cases hb : p.low ≤ b.toNat ∧ b.toNat ≤ p.high
    · have hx : b.toNat - 128 + 128 = b.toNat := by omega
      refine ⟨b.toNat - 128, rest, by rw [hx, UInt8.ofNat_toNat], by omega, by omega, by omega,
        fun owed howed => ?_⟩
      rw [decodeFrom, feed, if_pos hb, howed] at h
      exact h
    · rw [decodeFrom, feed, if_neg hb] at h
      exact absurd List.mem_cons_self h

theorem toNat_ofNat_of_valid {v : Nat} (h : v < 0xD800 ∨ 0xDFFF < v ∧ v < 0x110000) :
    (Char.ofNat v).val.toNat = v := by
  have hv : v.isValidChar := h
  rw [Char.ofNat, dif_pos hv]
  rfl

/-- Bytes that read throughout begin with the bytes of a character. -/
theorem exists_spell {b : UInt8} {bytes : List UInt8} (h : none ∉ decodeFrom none (b :: bytes)) :
    ∃ c rest, b :: bytes = String.utf8EncodeChar c ++ rest := by
  have hb256 := b.toNat_lt
  rw [decodeFrom, feed, start] at h
  split at h
  · refine ⟨Char.ofNat b.toNat, bytes, ?_⟩
    rw [String.utf8EncodeChar, toNat_ofNat_of_valid (by omega)]
    rw [if_pos (by omega), UInt8.ofNat_toNat]
    rfl
  split at h
  case h_2 => exact absurd List.mem_cons_self h
  case h_1 p hp =>
  obtain ⟨hlow, hhigh, hcases⟩ := ofLead?_cases hp
  obtain ⟨x, rest, rfl, hx, hxlow, hxhigh, hnext⟩ := exists_owed hlow hhigh h
  have hlead : b = UInt8.ofNat b.toNat := UInt8.ofNat_toNat.symm
  obtain ⟨howed, hb, h2, h32⟩ | ⟨howed, hb, hbits, hshort, hsurrogate⟩ |
    ⟨howed, hb, hbits, hshort, hlast⟩ := hcases
  · refine ⟨Char.ofNat (p.bits * 64 + x), rest, ?_⟩
    rw [String.utf8EncodeChar, toNat_ofNat_of_valid (by omega)]
    rw [if_neg (by omega), if_pos (by omega), hlead, hb,
      show (p.bits * 64 + x) / 64 % 32 = p.bits by omega, show (p.bits * 64 + x) % 64 = x by omega]
    rfl
  · obtain ⟨y, rest, rfl, hy, -, -, -⟩ :=
      exists_owed (Nat.le_refl 128) (Nat.le_refl 191) (hnext 0 howed)
    refine ⟨Char.ofNat ((p.bits * 64 + x) * 64 + y), rest, ?_⟩
    rw [String.utf8EncodeChar, toNat_ofNat_of_valid (by omega)]
    rw [if_neg (by omega), if_neg (by omega), if_pos (by omega), hlead, hb,
      show ((p.bits * 64 + x) * 64 + y) / 4096 % 16 = p.bits by omega,
      show ((p.bits * 64 + x) * 64 + y) / 64 % 64 = x by omega,
      show ((p.bits * 64 + x) * 64 + y) % 64 = y by omega]
    rfl
  · obtain ⟨y, rest, rfl, hy, -, -, hnext⟩ :=
      exists_owed (Nat.le_refl 128) (Nat.le_refl 191) (hnext 1 howed)
    obtain ⟨z, rest, rfl, hz, -, -, -⟩ :=
      exists_owed (Nat.le_refl 128) (Nat.le_refl 191) (hnext 0 rfl)
    refine ⟨Char.ofNat (((p.bits * 64 + x) * 64 + y) * 64 + z), rest, ?_⟩
    rw [String.utf8EncodeChar, toNat_ofNat_of_valid (by omega)]
    rw [if_neg (by omega), if_neg (by omega), if_neg (by omega), hlead, hb,
      show (((p.bits * 64 + x) * 64 + y) * 64 + z) / 262144 % 8 = p.bits by omega,
      show (((p.bits * 64 + x) * 64 + y) * 64 + z) / 4096 % 64 = x by omega,
      show (((p.bits * 64 + x) * 64 + y) * 64 + z) / 64 % 64 = y by omega,
      show (((p.bits * 64 + x) * 64 + y) * 64 + z) % 64 = z by omega]
    rfl

/-- Bytes that read throughout spell a text. -/
theorem exists_encode (bytes : List UInt8) (h : none ∉ decode bytes) :
    ∃ text, bytes = encode text := by
  induction hn : bytes.length using Nat.strongRecOn generalizing bytes with
  | ind n ih =>
    cases bytes with
    | nil => exact ⟨[], rfl⟩
    | cons b bytes =>
      obtain ⟨c, rest, hspell⟩ := exists_spell h
      rw [decode, hspell, decodeFrom_spell, List.mem_cons, not_or] at h
      have hlength : rest.length < n := by
        have hpos : 0 < (String.utf8EncodeChar c).length := by
          rw [String.length_utf8EncodeChar]
          exact c.utf8Size_pos
        have := congrArg List.length hspell
        rw [List.length_append] at this
        omega
      obtain ⟨text, rfl⟩ := ih rest.length hlength rest h.2 rfl
      exact ⟨c :: text, hspell⟩

theorem mapM_id_eq_some_iff {slots : List (Option Char)} {text : List Char} :
    slots.mapM id = some text ↔ slots = text.map some := by
  induction slots generalizing text with
  | nil => cases text <;> simp
  | cons slot slots ih =>
    have hcons : (slot :: slots).mapM id = some text ↔
        ∃ c text', slot = some c ∧ slots.mapM id = some text' ∧ c :: text' = text := by
      simp [List.mapM_cons, Option.bind_eq_some_iff]
    rw [hcons]
    constructor
    · rintro ⟨c, text', rfl, h, rfl⟩
      rw [ih.mp h, List.map_cons]
    · intro h
      obtain ⟨c, text', rfl, rfl, rfl⟩ := List.map_eq_cons_iff.mp h.symm
      exact ⟨c, text', rfl, ih.mpr rfl, rfl⟩

/-- **Bytes read strictly as a text are its spelling**, and only these. -/
theorem decode?_eq_some_iff {bytes : List UInt8} {text : List Char} :
    decode? bytes = some text ↔ bytes = encode text := by
  rw [decode?, mapM_id_eq_some_iff]
  refine ⟨fun h => ?_, fun h => h ▸ decode_encode text⟩
  obtain ⟨spelled, rfl⟩ := exists_encode bytes (by simp [h])
  rw [decode_encode] at h
  rw [List.map_inj_right (fun _ _ => Option.some.inj) |>.mp h]

/-! ## Zero bytes -/

theorem zero_ne_ofNat {n : Nat} (hpos : 0 < n) (hn : n < 256) : (0 : UInt8) ≠ UInt8.ofNat n := by
  intro h
  have hmod : 0 = n % 256 := (congrArg UInt8.toNat h).trans UInt8.toNat_ofNat'
  omega

/-- Only the zero character has a zero byte. -/
theorem zero_not_mem_spell {c : Char} (hc : c ≠ '\x00') :
    (0 : UInt8) ∉ String.utf8EncodeChar c := by
  have hvalid : c.toNat < 0xD800 ∨ 0xDFFF < c.toNat ∧ c.toNat < 0x110000 := c.valid
  have hpos : 0 < c.toNat := Nat.pos_of_ne_zero fun h => hc (c.ofNat_toNat ▸ congrArg Char.ofNat h)
  have hval : c.val.toNat = c.toNat := rfl
  unfold String.utf8EncodeChar
  rw [hval]
  generalize c.toNat = v at hvalid hpos
  dsimp only
  split
  · simpa only [List.mem_singleton] using zero_ne_ofNat hpos (by omega)
  split
  · simp only [List.mem_cons, List.not_mem_nil, or_false, not_or]
    exact ⟨zero_ne_ofNat (by omega) (by omega), zero_ne_ofNat (by omega) (by omega)⟩
  split <;> simp only [List.mem_cons, List.not_mem_nil, or_false, not_or]
  · exact ⟨zero_ne_ofNat (by omega) (by omega), zero_ne_ofNat (by omega) (by omega),
      zero_ne_ofNat (by omega) (by omega)⟩
  · exact ⟨zero_ne_ofNat (by omega) (by omega), zero_ne_ofNat (by omega) (by omega),
      zero_ne_ofNat (by omega) (by omega), zero_ne_ofNat (by omega) (by omega)⟩

end Utf8

namespace CString

theorem spellable_iff (text : String) : spellable text = true ↔ '\x00' ∉ text.toList := by
  simp [spellable]

/-- **A text without zero characters reads back from a string that a zero byte ends.** -/
theorem read_ofText {text : String} (h : spellable text = true) : read (ofText text) = text := by
  have hzero : ∀ b ∈ Utf8.encode text.toList, (decide (b ≠ 0)) = true := by
    intro b hb
    obtain ⟨c, hc, hbc⟩ := List.mem_flatMap.1 hb
    refine decide_eq_true fun h0 => ?_
    exact Utf8.zero_not_mem_spell (fun h' => (spellable_iff text).1 h (h' ▸ hc)) (h0 ▸ hbc)
  have htake : (ofText text).takeWhile (· ≠ 0) = Utf8.encode text.toList := by
    rw [ofText, List.takeWhile_append_of_pos hzero]
    exact List.append_nil _
  rw [read, htake, Utf8.decodeLossy_encode, String.ofList_toList]

theorem spellable_blankZeros (text : String) : spellable (blankZeros text) = true := by
  rw [spellable_iff, blankZeros, String.toList_ofList, List.mem_map]
  rintro ⟨c, -, hc⟩
  split at hc
  · exact absurd hc (by decide)
  · rename_i hne
    exact hne hc

theorem read_blankZeros (text : String) : read (ofText (blankZeros text)) = blankZeros text :=
  read_ofText (spellable_blankZeros text)

theorem blankZeros_of_spellable {text : String} (h : spellable text = true) :
    blankZeros text = text := by
  have hmap : text.toList.map (fun c => if c = '\x00' then ' ' else c) = text.toList.map id := by
    refine List.map_congr_left fun c hc => if_neg ?_
    rintro rfl
    exact (spellable_iff text).1 h hc
  rw [blankZeros, hmap, List.map_id, String.ofList_toList]

end CString

end HandleBridge
