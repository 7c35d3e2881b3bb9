import AttestedPayments.Proofs.Text.Base64
import AttestedPayments.Proofs.Text.Characters
import AttestedPayments.Text.Armor

/-!
# Armored text is read back

* `Armor.lt_of_mem_octets` — no octet of armored data is outside ASCII.
* `Armor.encode_trim_encode` — the octets that are read of armored text with its white space taken
  off.
* `Armor.exists_joinLines` — symbols are found again in the lines that they were put into.
* `Armor.decode_core` — octets are found again between their boundaries.

Principal result: `Armor.decode_trim_encode` — white space around armored text makes no difference.
-/

set_option autoImplicit false

namespace AttestedPayments

namespace Armor

/-- The octets of armored text. -/
def octets (label : String) (bytes : Bytes) : Bytes :=
  let lines := (chunks lineWidth (Base64.encode bytes)).map (· ++ [lineFeed])
  beginLine label ++ [lineFeed] ++ lines.flatten ++ endLine label ++ [lineFeed]

/-- Symbols in lines, each with its line feed. -/
def lines (symbols : Bytes) : Bytes := ((chunks lineWidth symbols).map (· ++ [lineFeed])).flatten

/-- The octets of armored text without the line feed at their end. -/
def core (label : String) (bytes : Bytes) : Bytes :=
  beginLine label ++ [lineFeed] ++ lines (Base64.encode bytes) ++ endLine label

theorem octets_eq (label : String) (bytes : Bytes) :
    octets label bytes = core label bytes ++ [lineFeed] := rfl

theorem encode_eq_characters (label : String) (bytes : Bytes) :
    encode label bytes = characters (octets label bytes) := rfl

/-- A label whose boundaries are ASCII. -/
def IsAscii (label : String) : Prop := ∀ b ∈ beginLine label ++ endLine label, b < 0x80

/-- No octet of armored text is outside ASCII. -/
theorem lt_of_mem_octets {label : String} (hlabel : IsAscii label) {bytes : Bytes} {b : UInt8}
    (h : b ∈ octets label bytes) : b < 0x80 := by
  simp only [octets, List.mem_append, List.mem_singleton] at h
  rcases h with (((h | rfl) | h) | h) | rfl
  · exact hlabel b (List.mem_append_left _ h)
  · decide
  · obtain ⟨line, hline, hb⟩ := List.mem_flatten.mp h
    obtain ⟨chunk, hchunk, rfl⟩ := List.mem_map.mp hline
    rcases List.mem_append.mp hb with hb | hb
    · have hflat : (chunks lineWidth (Base64.encode bytes)).flatten = Base64.encode bytes :=
        chunks_flatten (by decide) _
      have hmem : b ∈ Base64.encode bytes := by
        rw [← hflat]
        exact List.mem_flatten.mpr ⟨chunk, hchunk, hb⟩
      exact Base64.lt_of_mem_encode bytes b hmem
    · rw [List.mem_singleton.mp hb]
      decide
  · exact hlabel b (List.mem_append_right _ h)
  · decide

/-- What is read of armored text with its white space taken off. -/
theorem encode_trim_encode {label : String} (hlabel : IsAscii label) (bytes : Bytes) :
    Utf8.encode (trim (encode label bytes)) = trimOctets (octets label bytes) := by
  rw [encode_eq_characters, encode_trim_characters fun _ => lt_of_mem_octets hlabel]

/-! ## Line ends -/

/-- Neither a line feed nor a carriage return. -/
def NoLineEnd (b : UInt8) : Prop := b ≠ lineFeed ∧ b ≠ carriageReturn

theorem dropLastLineEnd_of_noLineEnd {b : UInt8} (h : NoLineEnd b) (bytes : Bytes) :
    dropLastLineEnd (bytes ++ [b]) = none := by
  unfold dropLastLineEnd
  rw [List.reverse_append, List.reverse_singleton, List.singleton_append]
  split
  · rename_i heq
    exact absurd (List.cons.inj heq).1 h.1
  · rename_i heq
    exact absurd (List.cons.inj heq).1 h.1
  · rename_i heq
    exact absurd (List.cons.inj heq).1 h.2
  · rfl

theorem dropLastLineEnd_lineFeed {b : UInt8} (h : NoLineEnd b) (bytes : Bytes) :
    dropLastLineEnd (bytes ++ [b] ++ [lineFeed]) = some (bytes ++ [b]) := by
  unfold dropLastLineEnd
  rw [List.reverse_append, List.reverse_append, List.reverse_singleton, List.reverse_singleton,
    List.singleton_append, List.singleton_append]
  split
  · rename_i heq
    exact absurd (List.cons.inj (List.cons.inj heq).2).1 h.2
  · rename_i heq
    rw [← (List.cons.inj heq).2, List.reverse_cons, List.reverse_reverse]
  · rename_i heq
    exact absurd (List.cons.inj heq).1 (by decide)
  · rename_i hno _
    exact absurd rfl (hno _)

theorem dropLineEnd_lineFeed (rest : Bytes) : dropLineEnd ([lineFeed] ++ rest) = some rest := rfl

theorem dropStart_append (start rest : Bytes) : dropStart start (start ++ rest) = some rest := by
  rw [dropStart, if_pos (List.isPrefixOf_iff_prefix.mpr (List.prefix_append _ _)), List.drop_left]

theorem dropEnding_append (bytes ending : Bytes) :
    dropEnding ending (bytes ++ ending) = some bytes := by
  rw [dropEnding, List.reverse_append, dropStart_append, Option.map_some, List.reverse_reverse]

theorem noLineEnd_symbol (n : Nat) : NoLineEnd (Base64.symbol n) := by
  have hlow := (Base64.symbol_bounds n).1
  constructor
  · intro h
    rw [h] at hlow
    exact absurd hlow (by decide)
  · intro h
    rw [h] at hlow
    exact absurd hlow (by decide)

/-! ## Lines -/

theorem lines_of_length_le {symbols : Bytes} (hne : symbols ≠ []) (h : symbols.length ≤ lineWidth) :
    lines symbols = symbols ++ [lineFeed] := by
  have hdrop : symbols.drop lineWidth = [] := List.drop_eq_nil_of_le h
  rw [lines, chunks, dif_neg (not_or.mpr ⟨by decide, hne⟩), hdrop, List.take_of_length_le h, chunks,
    dif_pos (.inr rfl)]
  exact List.append_nil _

theorem lines_append {line : Bytes} (h : line.length = lineWidth) (rest : Bytes) :
    lines (line ++ rest) = line ++ lineFeed :: lines rest := by
  have hne : line ++ rest ≠ [] := by
    intro hnil
    rw [(List.append_eq_nil_iff.mp hnil).1] at h
    cases h
  rw [lines, chunks, dif_neg (not_or.mpr ⟨by decide, hne⟩), List.take_left' h, List.drop_left' h,
    List.map_cons, List.flatten_cons, List.append_assoc]
  rfl

theorem joinLines_of_length_le {bytes : Bytes} {b : UInt8} (hb : NoLineEnd b)
    (h : (bytes ++ [b]).length ≤ lineWidth) : joinLines (bytes ++ [b]) = some (bytes ++ [b]) := by
  rw [joinLines, if_pos h, List.take_of_length_le h, dropLastLineEnd_of_noLineEnd hb]
  rfl

theorem joinLines_nil : joinLines [] = some [] := by
  rw [joinLines]
  rfl

/-- A full line comes before what the lines after it give. -/
theorem joinLines_append {line rest more : Bytes} (h : line.length = lineWidth)
    (hrest : joinLines rest = some more) (hmore : more ≠ []) :
    joinLines (line ++ lineFeed :: rest) = some (line ++ more) := by
  have hlong : ¬ (line ++ lineFeed :: rest).length ≤ lineWidth := by
    rw [List.length_append, h, List.length_cons]
    omega
  cases rest with
  | nil =>
    rw [joinLines_nil] at hrest
    exact absurd (Option.some.inj hrest).symm hmore
  | cons b rest =>
    have hnext : dropLineEnd ((line ++ lineFeed :: b :: rest).drop lineWidth) = some (b :: rest) := by
      rw [List.drop_left' h]
      rfl
    rw [joinLines, if_neg hlong, List.take_left' h]
    split <;> rename_i hdrop <;> rw [hnext] at hdrop <;> cases hdrop
    rw [hrest]
    cases more with
    | nil => exact absurd rfl hmore
    | cons c more => rfl

/-- **Symbols are found again in their lines.** The line feed at the end is not part of what is
joined. -/
theorem exists_joinLines {symbols : Bytes} (hne : symbols ≠ []) (h : ∀ c ∈ symbols, NoLineEnd c) :
    ∃ joined last, NoLineEnd last ∧ lines symbols = joined ++ [last] ++ [lineFeed] ∧
      joinLines (joined ++ [last]) = some symbols := by
  fun_induction chunks lineWidth symbols with
  | case1 symbols hnil => exact absurd (hnil.resolve_left (by decide)) hne
  | case2 symbols _ ih =>
    by_cases hshort : symbols.length ≤ lineWidth
    · obtain ⟨front, last, rfl⟩ : ∃ front last, symbols = front ++ [last] :=
        ⟨_, _, (List.dropLast_concat_getLast hne).symm⟩
      have hlast : NoLineEnd last := h last (List.mem_append_right _ List.mem_cons_self)
      exact ⟨front, last, hlast, lines_of_length_le hne hshort, joinLines_of_length_le hlast hshort⟩
    · have hline : (symbols.take lineWidth).length = lineWidth :=
        List.length_take_of_le (Nat.le_of_not_le hshort)
      have hrest : symbols.drop lineWidth ≠ [] := by
        rwa [ne_eq, List.drop_eq_nil_iff]
      obtain ⟨joined, last, hlast, hlines, hjoin⟩ :=
        ih hrest fun c hc => h c (List.mem_of_mem_drop hc)
      have hsymbols := lines_append hline (symbols.drop lineWidth)
      have hjoined := joinLines_append hline hjoin hrest
      rw [List.take_append_drop] at hsymbols hjoined
      refine ⟨symbols.take lineWidth ++ lineFeed :: joined, last, hlast, ?_, ?_⟩
      · rw [hsymbols, hlines]
        simp only [List.append_assoc, List.cons_append]
      · rw [List.append_assoc, List.cons_append, hjoined]

/-! ## Blocks -/

theorem beginLine_eq (label : String) :
    beginLine label = opening ++ (Utf8.encode label ++ Utf8.encode "-----") := by
  rw [beginLine, Utf8.encode_append, Utf8.encode_append, List.append_assoc, opening]

theorem skipPreamble_beginLine (label : String) (rest : Bytes) :
    skipPreamble (beginLine label ++ rest) = some (beginLine label ++ rest) := by
  rw [skipPreamble, beginLine_eq, List.append_assoc]
  exact if_pos (List.isPrefixOf_iff_prefix.mpr (List.prefix_append _ _))

/-- A closing boundary ends in a dash. -/
theorem exists_endLine (label : String) : ∃ rest, endLine label = rest ++ [45] := by
  have hdashes : Utf8.encode "-----" = [45, 45, 45, 45] ++ [45] := by decide
  exact ⟨_, by rw [endLine, Utf8.encode_append, hdashes, ← List.append_assoc]⟩

/-- **Octets are found again between their boundaries.** -/
theorem decode_core (label : String) {bytes : Bytes} (hne : bytes ≠ []) :
    decode label (core label bytes) = some bytes := by
  have hsymbols : ∀ c ∈ Base64.encode bytes, NoLineEnd c :=
    Base64.forall_mem_encode noLineEnd_symbol ⟨by decide, by decide⟩ bytes
  obtain ⟨joined, last, hlast, hlines, hjoin⟩ :=
    exists_joinLines (Base64.encode_ne_nil hne) hsymbols
  have hclosed : dropLastLineEnd (lines (Base64.encode bytes) ++ endLine label) = none := by
    obtain ⟨rest, hrest⟩ := exists_endLine label
    rw [hrest, ← List.append_assoc]
    exact dropLastLineEnd_of_noLineEnd ⟨by decide, by decide⟩ _
  have hread : symbols label (core label bytes) = some (Base64.encode bytes) := by
    rw [hlines] at hclosed
    rw [core, symbols, List.append_assoc, List.append_assoc]
    simp only [skipPreamble_beginLine, dropStart_append, dropLineEnd_lineFeed, hclosed,
      Option.getD_none, dropEnding_append, hlines, dropLastLineEnd_lineFeed hlast, hjoin,
      Option.bind_eq_bind, Option.bind_some]
  rw [decode, hread, Option.bind_some, Base64.decode_encode]

theorem ascii_core {label : String} (hlabel : IsAscii label) (bytes : Bytes) :
    ∀ b ∈ core label bytes, b < 0x80 :=
  fun _ hb => lt_of_mem_octets hlabel (List.mem_append_left _ hb)

/-- Armored text is its octets between two dashes, and a line feed. -/
theorem exists_core (label : String) (bytes : Bytes) :
    (∃ rest, core label bytes = 45 :: rest) ∧ ∃ rest, core label bytes = rest ++ [45] := by
  constructor
  · have hopening : opening = 45 :: Utf8.encode "----BEGIN " := by decide
    exact ⟨_, by rw [core, beginLine_eq, hopening]; rfl⟩
  · obtain ⟨rest, hrest⟩ := exists_endLine label
    exact ⟨_, by rw [core, hrest, ← List.append_assoc]⟩

/-- What is left of armored text without the white space around it. -/
theorem trim_encode (label : String) (bytes : Bytes) {before after : String}
    (hbefore : IsBlankText before) (hafter : IsBlankText after) :
    trim (before ++ encode label bytes ++ after) = characters (core label bytes) := by
  have hencode : encode label bytes = characters (core label bytes) ++ "\n" := by
    rw [encode_eq_characters, octets_eq, characters_append]
    rfl
  have hblank : IsBlankText ("\n" ++ after) := by
    intro c hc
    rw [String.toList_append, List.mem_append] at hc
    rcases hc with hc | hc
    · rw [List.mem_singleton.mp hc]
      decide
    · exact hafter c hc
  obtain ⟨⟨first, hfirst⟩, last, hlast⟩ := exists_core label bytes
  rw [hencode, ← String.append_assoc, String.append_assoc]
  refine trim_surrounded hbefore hblank ?_ ?_
  · refine ⟨'-', first.map fun b => Char.ofNat b.toNat, ?_, by decide⟩
    rw [hfirst, characters, String.toList_ofList]
    rfl
  · refine ⟨last.map fun b => Char.ofNat b.toNat, '-', ?_, by decide⟩
    rw [hlast, characters, String.toList_ofList, List.map_append]
    rfl

/-- **White space around armored text makes no difference** to the octets that are read of it. -/
theorem decode_trim_encode {label : String} (hlabel : IsAscii label) {bytes : Bytes}
    (hne : bytes ≠ []) {before after : String} (hbefore : IsBlankText before)
    (hafter : IsBlankText after) :
    decode label (Utf8.encode (trim (before ++ encode label bytes ++ after))) = some bytes := by
  rw [trim_encode label bytes hbefore hafter, Utf8.encode_characters (ascii_core hlabel bytes),
    decode_core label hne]

end Armor

end AttestedPayments
