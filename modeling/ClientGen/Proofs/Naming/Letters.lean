import ClientGen.Language

/-! What a language takes for a name. The characters of names are those of Unicode 14: letters, and
behind the first one also digits and marks. In TypeScript a name may hold dollar signs too, and
letters that Unicode takes apart into others. No reserved word is a name. -/
namespace ClientGen

namespace Text

def figureRanges : List (Nat × Nat) := [
  (0xb2, 0xb3), (0xb9, 0xb9), (0xbc, 0xbe), (0x9f4, 0x9f9), (0xb72, 0xb77), (0xbf0, 0xbf2),
  (0xc78, 0xc7e), (0xd58, 0xd5e), (0xd70, 0xd78), (0xf2a, 0xf33), (0x1372, 0x137c),
  (0x17f0, 0x17f9), (0x2070, 0x2070), (0x2074, 0x2079), (0x2080, 0x2089), (0x2150, 0x215f),
  (0x2189, 0x2189), (0x2460, 0x249b), (0x24ea, 0x24ff), (0x2776, 0x2793), (0x2cfd, 0x2cfd),
  (0x2e2f, 0x2e2f), (0x3192, 0x3195), (0x3220, 0x3229), (0x3248, 0x324f), (0x3251, 0x325f),
  (0x3280, 0x3289), (0x32b1, 0x32bf), (0xa830, 0xa835), (0x10107, 0x10133), (0x10175, 0x10178),
  (0x1018a, 0x1018b), (0x102e1, 0x102fb), (0x10320, 0x10323), (0x10858, 0x1085f),
  (0x10879, 0x1087f), (0x108a7, 0x108af), (0x108fb, 0x108ff), (0x10916, 0x1091b),
  (0x109bc, 0x109bd), (0x109c0, 0x109cf), (0x109d2, 0x109ff), (0x10a40, 0x10a48),
  (0x10a7d, 0x10a7e), (0x10a9d, 0x10a9f), (0x10aeb, 0x10aef), (0x10b58, 0x10b5f),
  (0x10b78, 0x10b7f), (0x10ba9, 0x10baf), (0x10cfa, 0x10cff), (0x10e60, 0x10e7e),
  (0x10f1d, 0x10f26), (0x10f51, 0x10f54), (0x10fc5, 0x10fcb), (0x11052, 0x11065),
  (0x111e1, 0x111f4), (0x1173a, 0x1173b), (0x118ea, 0x118f2), (0x11c5a, 0x11c6c),
  (0x11fc0, 0x11fd4), (0x16b5b, 0x16b61), (0x16e80, 0x16e96), (0x1d2e0, 0x1d2f3),
  (0x1d360, 0x1d378), (0x1e8c7, 0x1e8cf), (0x1ec71, 0x1ecab), (0x1ecad, 0x1ecaf),
  (0x1ecb1, 0x1ecb4), (0x1ed01, 0x1ed2d), (0x1ed2f, 0x1ed3d), (0x1f100, 0x1f10c)]

def looseRanges : List (Nat × Nat) := [
  (0x37a, 0x37a), (0x309b, 0x309c), (0xfc5e, 0xfc63), (0xfdfa, 0xfdfb), (0xfe70, 0xfe70),
  (0xfe72, 0xfe72), (0xfe74, 0xfe74), (0xfe76, 0xfe76), (0xfe78, 0xfe78), (0xfe7a, 0xfe7a),
  (0xfe7c, 0xfe7c), (0xfe7e, 0xfe7e)]

def markRanges : List (Nat × Nat) := [
  (0xb7, 0xb7), (0x300, 0x36f), (0x387, 0x387), (0x483, 0x487), (0x591, 0x5bd), (0x5bf, 0x5bf),
  (0x5c1, 0x5c2), (0x5c4, 0x5c5), (0x5c7, 0x5c7), (0x610, 0x61a), (0x64b, 0x65f), (0x670, 0x670),
  (0x6d6, 0x6dc), (0x6df, 0x6e4), (0x6e7, 0x6e8), (0x6ea, 0x6ed), (0x711, 0x711), (0x730, 0x74a),
  (0x7a6, 0x7b0), (0x7eb, 0x7f3), (0x7fd, 0x7fd), (0x816, 0x819), (0x81b, 0x823), (0x825, 0x827),
  (0x829, 0x82d), (0x859, 0x85b), (0x898, 0x89f), (0x8ca, 0x8e1), (0x8e3, 0x903), (0x93a, 0x93c),
  (0x93e, 0x94f), (0x951, 0x957), (0x962, 0x963), (0x981, 0x983), (0x9bc, 0x9bc), (0x9be, 0x9c4),
  (0x9c7, 0x9c8), (0x9cb, 0x9cd), (0x9d7, 0x9d7), (0x9e2, 0x9e3), (0x9fe, 0x9fe), (0xa01, 0xa03),
  (0xa3c, 0xa3c), (0xa3e, 0xa42), (0xa47, 0xa48), (0xa4b, 0xa4d), (0xa51, 0xa51), (0xa70, 0xa71),
  (0xa75, 0xa75), (0xa81, 0xa83), (0xabc, 0xabc), (0xabe, 0xac5), (0xac7, 0xac9), (0xacb, 0xacd),
  (0xae2, 0xae3), (0xafa, 0xaff), (0xb01, 0xb03), (0xb3c, 0xb3c), (0xb3e, 0xb44), (0xb47, 0xb48),
  (0xb4b, 0xb4d), (0xb55, 0xb57), (0xb62, 0xb63), (0xb82, 0xb82), (0xbbe, 0xbc2), (0xbc6, 0xbc8),
  (0xbca, 0xbcd), (0xbd7, 0xbd7), (0xc00, 0xc04), (0xc3c, 0xc3c), (0xc3e, 0xc44), (0xc46, 0xc48),
  (0xc4a, 0xc4d), (0xc55, 0xc56), (0xc62, 0xc63), (0xc81, 0xc83), (0xcbc, 0xcbc), (0xcbe, 0xcc4),
  (0xcc6, 0xcc8), (0xcca, 0xccd), (0xcd5, 0xcd6), (0xce2, 0xce3), (0xd00, 0xd03), (0xd3b, 0xd3c),
  (0xd3e, 0xd44), (0xd46, 0xd48), (0xd4a, 0xd4d), (0xd57, 0xd57), (0xd62, 0xd63), (0xd81, 0xd83),
  (0xdca, 0xdca), (0xdcf, 0xdd4), (0xdd6, 0xdd6), (0xdd8, 0xddf), (0xdf2, 0xdf3), (0xe31, 0xe31),
  (0xe34, 0xe3a), (0xe47, 0xe4e), (0xeb1, 0xeb1), (0xeb4, 0xebc), (0xec8, 0xecd), (0xf18, 0xf19),
  (0xf35, 0xf35), (0xf37, 0xf37), (0xf39, 0xf39), (0xf3e, 0xf3f), (0xf71, 0xf84), (0xf86, 0xf87),
  (0xf8d, 0xf97), (0xf99, 0xfbc), (0xfc6, 0xfc6), (0x102b, 0x103e), (0x1056, 0x1059),
  (0x105e, 0x1060), (0x1062, 0x1064), (0x1067, 0x106d), (0x1071, 0x1074), (0x1082, 0x108d),
  (0x108f, 0x108f), (0x109a, 0x109d), (0x135d, 0x135f), (0x1712, 0x1715), (0x1732, 0x1734),
  (0x1752, 0x1753), (0x1772, 0x1773), (0x17b4, 0x17d3), (0x17dd, 0x17dd), (0x180b, 0x180d),
  (0x180f, 0x180f), (0x18a9, 0x18a9), (0x1920, 0x192b), (0x1930, 0x193b), (0x1a17, 0x1a1b),
  (0x1a55, 0x1a5e), (0x1a60, 0x1a7c), (0x1a7f, 0x1a7f), (0x1ab0, 0x1abd), (0x1abf, 0x1ace),
  (0x1b00, 0x1b04), (0x1b34, 0x1b44), (0x1b6b, 0x1b73), (0x1b80, 0x1b82), (0x1ba1, 0x1bad),
  (0x1be6, 0x1bf3), (0x1c24, 0x1c37), (0x1cd0, 0x1cd2), (0x1cd4, 0x1ce8), (0x1ced, 0x1ced),
  (0x1cf4, 0x1cf4), (0x1cf7, 0x1cf9), (0x1dc0, 0x1dff), (0x203f, 0x2040), (0x2054, 0x2054),
  (0x20d0, 0x20dc), (0x20e1, 0x20e1), (0x20e5, 0x20f0), (0x2cef, 0x2cf1), (0x2d7f, 0x2d7f),
  (0x2de0, 0x2dff), (0x302a, 0x302f), (0x3099, 0x309a), (0xa66f, 0xa66f), (0xa674, 0xa67d),
  (0xa69e, 0xa69f), (0xa6f0, 0xa6f1), (0xa802, 0xa802), (0xa806, 0xa806), (0xa80b, 0xa80b),
  (0xa823, 0xa827), (0xa82c, 0xa82c), (0xa880, 0xa881), (0xa8b4, 0xa8c5), (0xa8e0, 0xa8f1),
  (0xa8ff, 0xa8ff), (0xa926, 0xa92d), (0xa947, 0xa953), (0xa980, 0xa983), (0xa9b3, 0xa9c0),
  (0xa9e5, 0xa9e5), (0xaa29, 0xaa36), (0xaa43, 0xaa43), (0xaa4c, 0xaa4d), (0xaa7b, 0xaa7d),
  (0xaab0, 0xaab0), (0xaab2, 0xaab4), (0xaab7, 0xaab8), (0xaabe, 0xaabf), (0xaac1, 0xaac1),
  (0xaaeb, 0xaaef), (0xaaf5, 0xaaf6), (0xabe3, 0xabea), (0xabec, 0xabed), (0xfb1e, 0xfb1e),
  (0xfe00, 0xfe0f), (0xfe20, 0xfe2f), (0xfe33, 0xfe34), (0xfe4d, 0xfe4f), (0xff3f, 0xff3f),
  (0x101fd, 0x101fd), (0x102e0, 0x102e0), (0x10376, 0x1037a), (0x10a01, 0x10a03),
  (0x10a05, 0x10a06), (0x10a0c, 0x10a0f), (0x10a38, 0x10a3a), (0x10a3f, 0x10a3f),
  (0x10ae5, 0x10ae6), (0x10d24, 0x10d27), (0x10eab, 0x10eac), (0x10f46, 0x10f50),
  (0x10f82, 0x10f85), (0x11000, 0x11002), (0x11038, 0x11046), (0x11070, 0x11070),
  (0x11073, 0x11074), (0x1107f, 0x11082), (0x110b0, 0x110ba), (0x110c2, 0x110c2),
  (0x11100, 0x11102), (0x11127, 0x11134), (0x11145, 0x11146), (0x11173, 0x11173),
  (0x11180, 0x11182), (0x111b3, 0x111c0), (0x111c9, 0x111cc), (0x111ce, 0x111cf),
  (0x1122c, 0x11237), (0x1123e, 0x1123e), (0x112df, 0x112ea), (0x11300, 0x11303),
  (0x1133b, 0x1133c), (0x1133e, 0x11344), (0x11347, 0x11348), (0x1134b, 0x1134d),
  (0x11357, 0x11357), (0x11362, 0x11363), (0x11366, 0x1136c), (0x11370, 0x11374),
  (0x11435, 0x11446), (0x1145e, 0x1145e), (0x114b0, 0x114c3), (0x115af, 0x115b5),
  (0x115b8, 0x115c0), (0x115dc, 0x115dd), (0x11630, 0x11640), (0x116ab, 0x116b7),
  (0x1171d, 0x1172b), (0x1182c, 0x1183a), (0x11930, 0x11935), (0x11937, 0x11938),
  (0x1193b, 0x1193e), (0x11940, 0x11940), (0x11942, 0x11943), (0x119d1, 0x119d7),
  (0x119da, 0x119e0), (0x119e4, 0x119e4), (0x11a01, 0x11a0a), (0x11a33, 0x11a39),
  (0x11a3b, 0x11a3e), (0x11a47, 0x11a47), (0x11a51, 0x11a5b), (0x11a8a, 0x11a99),
  (0x11c2f, 0x11c36), (0x11c38, 0x11c3f), (0x11c92, 0x11ca7), (0x11ca9, 0x11cb6),
  (0x11d31, 0x11d36), (0x11d3a, 0x11d3a), (0x11d3c, 0x11d3d), (0x11d3f, 0x11d45),
  (0x11d47, 0x11d47), (0x11d8a, 0x11d8e), (0x11d90, 0x11d91), (0x11d93, 0x11d97),
  (0x11ef3, 0x11ef6), (0x16af0, 0x16af4), (0x16b30, 0x16b36), (0x16f4f, 0x16f4f),
  (0x16f51, 0x16f87), (0x16f8f, 0x16f92), (0x16fe4, 0x16fe4), (0x16ff0, 0x16ff1),
  (0x1bc9d, 0x1bc9e), (0x1cf00, 0x1cf2d), (0x1cf30, 0x1cf46), (0x1d165, 0x1d169),
  (0x1d16d, 0x1d172), (0x1d17b, 0x1d182), (0x1d185, 0x1d18b), (0x1d1aa, 0x1d1ad),
  (0x1d242, 0x1d244), (0x1da00, 0x1da36), (0x1da3b, 0x1da6c), (0x1da75, 0x1da75),
  (0x1da84, 0x1da84), (0x1da9b, 0x1da9f), (0x1daa1, 0x1daaf), (0x1e000, 0x1e006),
  (0x1e008, 0x1e018), (0x1e01b, 0x1e021), (0x1e023, 0x1e024), (0x1e026, 0x1e02a),
  (0x1e130, 0x1e136), (0x1e2ae, 0x1e2ae), (0x1e2ec, 0x1e2ef), (0x1e8d0, 0x1e8d6),
  (0x1e944, 0x1e94a), (0xe0100, 0xe01ef)]

def otherStartRanges : List (Nat × Nat) := [
  (0x1885, 0x1886), (0x2118, 0x2118), (0x212e, 0x212e)]

def laterRanges : List (Nat × Nat) := [
  (0xe33, 0xe33), (0xeb3, 0xeb3), (0x1369, 0x1371), (0x19da, 0x19da), (0xff9e, 0xff9f)]

def isNamePart (c : Char) : Bool :=
  (isWord c || inRanges otherStartRanges c.toNat || inRanges markRanges c.toNat) &&
    !inRanges figureRanges c.toNat && !inRanges looseRanges c.toNat

def isNameStart (c : Char) : Bool :=
  isNamePart c && !inRanges markRanges c.toNat && !isDecimal c && !inRanges laterRanges c.toNat

theorem asciiWordSmall {c : Char} (word : isAsciiWord c = true) : c.toNat < 128 := by
  simp only [isAsciiWord, isAsciiAlnum, isAsciiUpper, isAsciiLower, isAsciiDigit, Bool.or_eq_true,
    decide_eq_true_eq, beq_iff_eq, Char.le_def, UInt32.le_iff_toNat_le] at word
  unfold Char.toNat
  rcases word with ((upper | lower) | digit) | rfl
  · exact Nat.lt_of_le_of_lt upper.2 (by decide)
  · exact Nat.lt_of_le_of_lt lower.2 (by decide)
  · exact Nat.lt_of_le_of_lt digit.2 (by decide)
  · decide

def disjoint (low high : Nat) (ranges : List (Nat × Nat)) : Bool :=
  ranges.all fun r => Nat.blt high r.1 || Nat.blt r.2 low

theorem disjointOutside {low high n : Nat} {ranges : List (Nat × Nat)}
    (apart : disjoint low high ranges = true) (above : low ≤ n) (below : n ≤ high) :
    inRanges ranges n = false := by
  simp only [disjoint, List.all_eq_true, Bool.or_eq_true, Nat.blt_eq] at apart
  rw [Bool.eq_false_iff, ne_eq, inRangesIff]
  rintro ⟨r, member, first, last⟩
  have := apart r member
  omega

theorem asciiOutside {c : Char} (small : c.toNat < 128) {ranges : List (Nat × Nat)}
    (apart : disjoint 0 127 ranges = true) : inRanges ranges c.toNat = false :=
  disjointOutside apart (Nat.zero_le _) (Nat.le_of_lt_succ small)

theorem asciiUnmarked {c : Char} (small : c.toNat < 128) : inRanges markRanges c.toNat = false :=
  asciiOutside small (by decide +kernel)

theorem asciiNamePart {c : Char} (small : c.toNat < 128) : isNamePart c = isAsciiWord c := by
  have other : inRanges otherStartRanges c.toNat = false := asciiOutside small (by decide)
  have figure : inRanges figureRanges c.toNat = false := asciiOutside small (by decide)
  have loose : inRanges looseRanges c.toNat = false := asciiOutside small (by decide)
  simp [isNamePart, isWord, small, other, asciiUnmarked small, figure, loose]

theorem asciiWordPart {c : Char} (word : isAsciiWord c = true) : isNamePart c = true := by
  rw [asciiNamePart (asciiWordSmall word), word]

theorem asciiWordStart {c : Char} (word : isAsciiWord c = true) (letter : isAsciiDigit c = false) :
    isNameStart c = true := by
  have small := asciiWordSmall word
  have later : inRanges laterRanges c.toNat = false := asciiOutside small (by decide)
  simp [isNameStart, asciiWordPart word, isDecimal, decimalValue?, small, letter,
    asciiUnmarked small, later]

def CaseRun.keepsNames (r : CaseRun) : Bool :=
  let first := (r.first + r.offset).toNat
  let last := (r.last + r.offset).toNat
  wordRanges.any (fun s => Nat.ble s.1 first && Nat.ble last s.2) && Nat.ble 128 first &&
      disjoint first last figureRanges && disjoint first last looseRanges ||
    Nat.beq r.first r.last && isNamePart (Char.ofNat first) ||
    disjoint r.first r.last (wordRanges ++ otherStartRanges ++ markRanges)

theorem runsKeepNames : ∀ r ∈ lowerRuns, r.keepsNames = true := by decide +kernel

theorem wordRangePart {s : Nat × Nat} (member : s ∈ wordRanges) {n : Nat} (large : 128 ≤ n)
    (inside : s.1 ≤ n ∧ n ≤ s.2) (figure : inRanges figureRanges n = false)
    (loose : inRanges looseRanges n = false) : isNamePart (Char.ofNat n) = true := by
  have characters : ∀ s ∈ wordRanges, s.2 < 0xd800 ∨ 0xdfff < s.1 ∧ s.2 < 0x110000 := by
    decide +kernel
  have valid : n.isValidChar := by
    rcases characters s member with low | high
    · exact .inl (by omega)
    · exact .inr ⟨by omega, by omega⟩
  have same : (Char.ofNat n).toNat = n := by
    rw [Char.ofNat, dif_pos valid]
    rfl
  have word : inRanges wordRanges n = true := inRangesIff.mpr ⟨s, member, inside⟩
  simp [isNamePart, isWord, same, figure, loose, word, large]

theorem mappedPart {r : CaseRun} (keeps : r.keepsNames = true) {c : Char} (large : ¬c.toNat < 128)
    (covered : r.covers c.toNat = true) (part : isNamePart c = true) :
    isNamePart (Char.ofNat (c.toNat + r.offset).toNat) = true := by
  obtain ⟨low, high, _⟩ := of_decide_eq_true covered
  simp only [CaseRun.keepsNames, Bool.or_eq_true, Bool.and_eq_true, List.any_eq_true,
    Nat.ble_eq, Nat.beq_eq] at keeps
  rcases keeps with (⟨⟨⟨⟨s, member, first, last⟩, beyond⟩, figure⟩, loose⟩ | ⟨single, mapped⟩) |
    outside
  · have above : (r.first + r.offset).toNat ≤ (c.toNat + r.offset).toNat := by omega
    have below : (c.toNat + r.offset).toNat ≤ (r.last + r.offset).toNat := by omega
    exact wordRangePart member (Nat.le_trans beyond above)
      ⟨Nat.le_trans first above, Nat.le_trans below last⟩
      (disjointOutside figure above below) (disjointOutside loose above below)
  · have same : c.toNat = r.first := by omega
    rwa [same]
  · have none := disjointOutside outside low high
    rw [inRanges, List.any_append, List.any_append] at none
    rw [isNamePart, isWord, if_neg large] at part
    simp only [inRanges, none, Bool.false_and, Bool.false_eq_true] at part

theorem lowerCharPart {c d : Char} (part : isNamePart c = true) (member : d ∈ lowerChar c) :
    isNamePart d = true := by
  have capitals : ∀ n < 26, isAsciiWord (Char.ofNat (65 + n + 32)) = true := by decide
  have dot : isNamePart '\u0307' = true := by decide +kernel
  unfold lowerChar at member
  by_cases large : c.toNat < 128
  · rw [if_pos large, List.mem_singleton] at member
    subst member
    split
    · rename_i capital
      obtain ⟨low, high⟩ := of_decide_eq_true capital
      rw [Char.le_def, UInt32.le_iff_toNat_le] at low high
      have low : 65 ≤ c.toNat := low
      have high : c.toNat ≤ 90 := high
      have letter := asciiWordPart (capitals (c.toNat - 65) (by omega))
      rwa [Nat.add_sub_cancel' low] at letter
    · exact part
  · rw [if_neg large] at member
    split at member
    · rcases List.mem_cons.mp member with rfl | last
      · exact asciiWordPart (by decide)
      · exact List.mem_singleton.mp last ▸ dot
    · rw [List.mem_singleton] at member
      subst member
      unfold applyRuns
      split
      · rename_i r found
        have covered : r.covers c.toNat = true := by simpa using List.find?_some found
        exact mappedPart (runsKeepNames r (List.mem_of_find?_eq_some found)) large covered part
      · exact part

theorem lowerPart {s : List Char} (parts : ∀ c ∈ s, isNamePart c = true) :
    ∀ d ∈ lower s, isNamePart d = true := by
  have sigmas : isNamePart 'ς' = true ∧ isNamePart 'σ' = true := by decide
  have from_ (before : List Char) : ∀ d ∈ lowerFrom before s, isNamePart d = true := by
    induction s generalizing before with
    | nil => exact fun _ => nofun
    | cons c rest ih =>
      obtain ⟨here, later⟩ := List.forall_mem_cons.mp parts
      refine List.forall_mem_append.mpr ⟨?_, ih later _⟩
      split
      · split
        · exact List.forall_mem_singleton.mpr sigmas.1
        · exact List.forall_mem_singleton.mpr sigmas.2
      · exact fun d => lowerCharPart here
  exact from_ []

end Text

namespace Language

def reserved : Language → List String
  | .python => Naming.reservedWords
  | .typescript => [
    "arguments", "await", "break", "case", "catch", "class", "const", "continue", "debugger",
    "default", "delete", "do", "else", "enum", "eval", "export", "extends", "false", "finally",
    "for", "function", "if", "implements", "import", "in", "instanceof", "interface", "let", "new",
    "null", "package", "private", "protected", "public", "return", "static", "super", "switch",
    "this", "throw", "true", "try", "typeof", "var", "void", "while", "with", "yield"]

def isNameStart : Language → Char → Bool
  | .python, c => Text.isNameStart c
  | .typescript, c => Text.isNameStart c || c == '$' || Text.inRanges Text.looseRanges c.toNat ||
    Text.inRanges [(0xe33, 0xe33), (0xeb3, 0xeb3), (0xff9e, 0xff9f)] c.toNat

def isNamePart : Language → Char → Bool
  | .python, c => Text.isNamePart c
  | .typescript, c => Text.isNamePart c || c == '$' || Text.inRanges Text.looseRanges c.toNat ||
    c == '\u200c' || c == '\u200d'

def isName (language : Language) (s : List Char) : Bool :=
  s.head?.any language.isNameStart && s.tail.all language.isNamePart &&
    !language.reserved.any (·.toList = s)

variable {language : Language}

theorem partOfText {c : Char} (part : Text.isNamePart c = true) :
    language.isNamePart c = true := by
  cases language <;> simp [isNamePart, part]

theorem reservedPlain : ∀ word ∈ language.reserved, '_' ∉ word.toList := by
  cases language <;> decide

theorem nameIff {c : Char} {rest : List Char} : language.isName (c :: rest) = true ↔
    language.isNameStart c = true ∧ (∀ d ∈ rest, language.isNamePart d = true) ∧
      ∀ word ∈ language.reserved, word.toList ≠ c :: rest := by
  simp [isName, and_assoc]

-- A name with a part behind an underscore is a name: no reserved word has one.
theorem nameExtends {s t : List Char} (name : language.isName s = true)
    (parts : ∀ c ∈ t, Text.isNamePart c = true) : language.isName (s ++ '_' :: t) = true := by
  cases s with
  | nil => simp [isName] at name
  | cons c rest =>
    obtain ⟨start, tail, _⟩ := nameIff.mp name
    have line : Text.isNamePart '_' = true := Text.asciiWordPart (by decide)
    refine nameIff.mpr ⟨start, ?_, fun word member same => ?_⟩
    · exact List.forall_mem_append.mpr ⟨tail, List.forall_mem_cons.mpr
        ⟨partOfText line, fun d inside => partOfText (parts d inside)⟩⟩
    · apply reservedPlain word member
      simp [same]

end Language
end ClientGen
