import ClockSync.Net.Address
import Mathlib.Data.List.Basic
import Mathlib.Data.List.Induction
import Mathlib.Data.List.TakeWhile
import Mathlib.Tactic.IntervalCases

/-!
# Addresses in the normal form

The text of an address is taken apart at its dots into the four parts that it
was made of (`splitAtEach_intercalate`), and each part is the decimal text of a
byte. Both readers of addresses read such a part as that byte: the strict one
because it has no zeros in front (`octet?_decimal`), the lenient one because,
without them, it does not take it for octal (`part?_decimal`). So both read the
normal form of an address as that address (`ofDottedChars?_dotted`,
`ofNumeric?_dotted`), and an endpoint names the socket address that it was made
of.

The strict reader reads nothing else. Digits without zeros in front are the
decimal text of their number (`decimal_toNat`), and the parts of a text make
that text again (`intercalate_splitAtEach`), so what it reads is the normal form
(`ofDottedChars?_eq_some_iff`).
-/

namespace ClockSync.Net

/-! ## Decimal texts -/

/-- The decimal text of a number. -/
abbrev decimal (n : Nat) : List Char := Nat.toDigits 10 n

theorem value?_digitChar {d : Nat} (h : d < 10) :
    Digit.value? 10 d.digitChar = some d := by
  interval_cases d <;> rfl

theorem toNat_concat (base : Nat) (ds : List Nat) (d : Nat) :
    Digit.toNat base (ds ++ [d]) = base * Digit.toNat base ds + d := by
  rw [Digit.toNat, List.foldl_append]
  rfl

/-- The digits of a decimal text make the number again. -/
theorem mapM_decimal (n : Nat) :
    ∃ ds, (decimal n).mapM (Digit.value? 10) = some ds ∧
      Digit.toNat 10 ds = n := by
  induction n using Nat.strong_induction_on with
  | _ n ih =>
    by_cases hlt : n < 10
    · refine ⟨[n], ?_, by simp [Digit.toNat]⟩
      simp [decimal, Nat.toDigits_of_lt_base hlt, value?_digitChar hlt]
    · obtain ⟨ds, hds, hvalue⟩ := ih (n / 10) (by omega)
      refine ⟨ds ++ [n % 10], ?_, ?_⟩
      · rw [decimal, Nat.toDigits_of_base_le (by decide) (not_lt.mp hlt),
          List.mapM_append, hds]
        simp [value?_digitChar (Nat.mod_lt n (by decide))]
      · rw [toNat_concat, hvalue]
        omega

theorem number?_decimal (n : Nat) : number? 10 (decimal n) = some n := by
  obtain ⟨ds, hds, hvalue⟩ := mapM_decimal n
  rw [number?, if_neg Nat.toDigits_ne_nil, hds, Option.map_some, hvalue]

/-- Only zero has a zero in front. -/
theorem head?_decimal {n : Nat} (h : 0 < n) : (decimal n).head? ≠ some '0' := by
  induction n using Nat.strong_induction_on with
  | _ n ih =>
    by_cases hlt : n < 10
    · rw [decimal, Nat.toDigits_of_lt_base hlt]
      interval_cases n <;> decide
    · have hfront := ih (n / 10) (by omega) (by omega)
      rw [decimal, Nat.toDigits_of_base_le (by decide) (not_lt.mp hlt),
        List.head?_append_of_ne_nil _ Nat.toDigits_ne_nil]
      exact hfront

theorem toNat_digitChar {d : Nat} (h : d < 10) :
    d.digitChar.toNat = '0'.toNat + d := by
  interval_cases d <;> rfl

/-- Only the decimal digits have values below ten. -/
theorem eq_digitChar_of_value? {c : Char} {d : Nat}
    (h : Digit.value? 10 c = some d) :
    d < 10 ∧ c = d.digitChar := by
  have hdigit : '0' ≤ c ∧ d = c.toNat - '0'.toNat ∧ d < 10 := by
    rw [Digit.value?] at h
    split_ifs at h <;> simp_all
  obtain ⟨hle, rfl, hlt⟩ := hdigit
  refine ⟨hlt, Char.toNat_inj.mp ?_⟩
  rw [toNat_digitChar hlt]
  have hzero : '0'.toNat ≤ c.toNat := Char.le_def.mp hle
  omega

theorem mapM_concat_eq_some {text : List Char} {c : Char} {ds : List Nat}
    (h : (text ++ [c]).mapM (Digit.value? 10) = some ds) :
    ∃ front d, text.mapM (Digit.value? 10) = some front ∧
      Digit.value? 10 c = some d ∧
      ds = front ++ [d] := by
  rw [List.mapM_append] at h
  cases hfront : text.mapM (Digit.value? 10) with
  | none => simp [hfront] at h
  | some front =>
    cases hd : Digit.value? 10 c with
    | none => simp [hfront, hd] at h
    | some d =>
      exact ⟨front, d, rfl, rfl, by simpa [hfront, hd, eq_comm] using h⟩

/-- Digits without zeros in front are the decimal text of their number. -/
theorem decimal_toNat {text : List Char} {ds : List Nat} (hne : text ≠ [])
    (hds : text.mapM (Digit.value? 10) = some ds)
    (hfront : text.head? = some '0' → text.length = 1) :
    decimal (Digit.toNat 10 ds) = text := by
  induction text using List.reverseRecOn generalizing ds with
  | nil => exact absurd rfl hne
  | append_singleton text c ih =>
    obtain ⟨front, d, hdigits, hd, rfl⟩ := mapM_concat_eq_some hds
    obtain ⟨hlt, rfl⟩ := eq_digitChar_of_value? hd
    rw [toNat_concat]
    by_cases htext : text = []
    · subst htext
      obtain rfl : front = [] := by simpa using hdigits.symm
      simp [decimal, Digit.toNat, Nat.toDigits_of_lt_base hlt]
    · -- what is in front of the last digit has no zeros in front either, and is
      -- not zero
      have hhead : text.head? ≠ some '0' := by
        intro hzero
        have hlength :=
          hfront (by rw [List.head?_append_of_ne_nil _ htext, hzero])
        have hpos := List.length_pos_of_ne_nil htext
        rw [List.length_append, List.length_singleton] at hlength
        omega
      have hdecimal := ih htext hdigits (absurd · hhead)
      have hpos : 0 < Digit.toNat 10 front := by
        refine Nat.pos_of_ne_zero fun hzero => hhead ?_
        rw [← hdecimal, hzero]
        rfl
      have hquotient : (10 * Digit.toNat 10 front + d) / 10 =
          Digit.toNat 10 front := by omega
      have hremainder : (10 * Digit.toNat 10 front + d) % 10 = d := by omega
      rw [decimal, Nat.toDigits_of_base_le (by decide) (by omega), hquotient,
        hremainder]
      exact congrArg (· ++ [d.digitChar]) hdecimal

theorem not_mem_decimal {c : Char} (h : c.isDigit = false) (n : Nat) :
    c ∉ decimal n := by
  intro hmem
  rw [Nat.isDigit_of_mem_toDigits (by decide) (le_refl 10) hmem] at h
  cases h

/-! ## Taking texts apart -/

section Splitting

variable {separator : Char}

theorem splitAtEach_of_not_mem {text : List Char} (h : separator ∉ text) :
    splitAtEach separator text = [text] := by
  induction text with
  | nil => rfl
  | cons c cs ih =>
    simp only [List.mem_cons, not_or] at h
    simp [splitAtEach, Ne.symm h.1, ih h.2]

theorem splitAtEach_append {front : List Char} (h : separator ∉ front)
    (rest : List Char) :
    splitAtEach separator (front ++ separator :: rest) =
      front :: splitAtEach separator rest := by
  induction front with
  | nil => simp [splitAtEach]
  | cons c cs ih =>
    simp only [List.mem_cons, not_or] at h
    simp [splitAtEach, Ne.symm h.1, ih h.2]

/-- Parts that are put together with separators between them are found again. -/
theorem splitAtEach_intercalate {parts : List (List Char)} (hne : parts ≠ [])
    (h : ∀ part ∈ parts, separator ∉ part) :
    splitAtEach separator (List.intercalate [separator] parts) = parts := by
  induction parts with
  | nil => exact absurd rfl hne
  | cons part parts ih =>
    obtain ⟨hpart, hparts⟩ := List.forall_mem_cons.mp h
    cases parts with
    | nil => simp [splitAtEach_of_not_mem hpart]
    | cons next rest =>
      rw [List.intercalate_cons_cons, List.append_assoc, List.singleton_append,
        splitAtEach_append hpart, ih (by simp) hparts]

theorem splitAtEach_ne_nil (text : List Char) :
    splitAtEach separator text ≠ [] := by
  cases text with
  | nil => simp [splitAtEach]
  | cons c cs =>
    rw [splitAtEach]
    split_ifs
    · simp
    · split <;> simp

/-- The parts of a text make the text again. -/
theorem intercalate_splitAtEach (text : List Char) :
    List.intercalate [separator] (splitAtEach separator text) = text := by
  induction text with
  | nil => rfl
  | cons c cs ih =>
    obtain ⟨part, parts, hparts⟩ :=
      List.exists_cons_of_ne_nil (splitAtEach_ne_nil cs)
    rw [hparts] at ih
    rw [splitAtEach, hparts]
    split_ifs with hc
    · rw [List.intercalate_cons_cons, ih, hc]
      rfl
    · cases parts with
      | nil => simpa using ih
      | cons next rest =>
        rw [List.intercalate_cons_cons] at ih ⊢
        simpa using ih

end Splitting

namespace IPv4

/-! ## Parts -/

/-- A byte in decimal is read strictly. -/
theorem octet?_decimal {n : Nat} (h : n < 256) :
    octet? (decimal n) = some n := by
  rw [octet?, if_neg, number?_decimal]
  · simp [h]
  · rintro ⟨hzero, hlong⟩
    obtain rfl | hpos := n.eq_zero_or_pos
    · exact absurd hlong (by decide)
    · exact head?_decimal hpos hzero

/-- A part that is read strictly is a byte in decimal. -/
theorem octet?_eq_some_iff {text : List Char} {n : Nat} :
    octet? text = some n ↔ n < 256 ∧ text = decimal n := by
  constructor
  · intro h
    rw [octet?] at h
    split_ifs at h with hzeros
    obtain ⟨hnumber, hlt⟩ := Option.filter_eq_some_iff.mp h
    rw [number?] at hnumber
    split_ifs at hnumber with hne
    obtain ⟨ds, hds, rfl⟩ := Option.map_eq_some_iff.mp hnumber
    refine ⟨of_decide_eq_true hlt, (decimal_toNat hne hds fun hhead => ?_).symm⟩
    have hpos := List.length_pos_of_ne_nil hne
    have hshort : ¬ 1 < text.length := fun hlong => hzeros ⟨hhead, hlong⟩
    omega
  · rintro ⟨hlt, rfl⟩
    exact octet?_decimal hlt

/-- A number in decimal is not taken for octal or hexadecimal. -/
theorem part?_decimal (n : Nat) : part? (decimal n) = some n := by
  obtain rfl | hpos := n.eq_zero_or_pos
  · rfl
  · have hhead := head?_decimal hpos
    have hnumber := number?_decimal n
    rw [part?.eq_def]
    split
    · next heq => exact absurd (by rw [heq]; rfl) hhead
    · next heq => exact absurd (by rw [heq]; rfl) hhead
    · next heq => exact absurd (by rw [heq]; rfl) hhead
    · exact hnumber

/-! ## The four bytes -/

theorem octets_lt (a : IPv4) : ∀ n ∈ a.octets, n < 256 := by
  have hbits := a.bits.toNat_lt
  simp only [octets, List.forall_mem_cons]
  refine ⟨by omega, by omega, by omega, by omega, by simp⟩

/-- The four bytes make the address again. -/
theorem ofOctets_octets (a : IPv4) :
    ofOctets (a.bits.toNat / 0x1000000) (a.bits.toNat / 0x10000 % 0x100)
      (a.bits.toNat / 0x100 % 0x100) (a.bits.toNat % 0x100) = a := by
  have hsum :
      ((a.bits.toNat / 0x1000000 * 256 + a.bits.toNat / 0x10000 % 0x100) * 256 +
      a.bits.toNat / 0x100 % 0x100) * 256 + a.bits.toNat % 0x100 =
        a.bits.toNat := by
    omega
  rw [ofOctets, hsum, UInt32.ofNat_toNat]

theorem octets_ofOctets {a b c d : Nat} (ha : a < 256) (hb : b < 256)
    (hc : c < 256) (hd : d < 256) :
    (ofOctets a b c d).octets = [a, b, c, d] := by
  have hbits : (ofOctets a b c d).bits.toNat =
      ((a * 256 + b) * 256 + c) * 256 + d := by
    refine UInt32.toNat_ofNat_of_lt' ?_
    show _ < 2 ^ 32
    omega
  rw [octets, hbits]
  simp only [List.cons.injEq, and_true]
  refine ⟨by omega, by omega, by omega, by omega⟩

/-! ## The normal form -/

theorem toList_dotted (a : IPv4) :
    a.dotted.toList = List.intercalate ['.'] (a.octets.map decimal) := by
  rw [dotted, String.toList_ofList]

theorem splitAtEach_dotted (a : IPv4) :
    splitAtEach '.' a.dotted.toList = a.octets.map decimal := by
  rw [toList_dotted]
  refine splitAtEach_intercalate (by simp [octets]) fun part hpart => ?_
  obtain ⟨n, -, rfl⟩ := List.mem_map.mp hpart
  exact not_mem_decimal rfl n

theorem ofDottedChars?_dotted (a : IPv4) :
    ofDottedChars? a.dotted.toList = some a := by
  have hparts : (a.octets.map decimal).map octet? = a.octets.map some := by
    rw [List.map_map]
    exact List.map_congr_left fun n hn => octet?_decimal (a.octets_lt n hn)
  rw [ofDottedChars?, splitAtEach_dotted, hparts]
  exact congrArg some a.ofOctets_octets

/-- The strict reader reads the normal form and nothing else. -/
theorem ofDottedChars?_eq_some_iff {text : List Char} {a : IPv4} :
    ofDottedChars? text = some a ↔ text = a.dotted.toList := by
  constructor
  · intro h
    rw [ofDottedChars?] at h
    split at h
    · next n₁ n₂ n₃ n₄ hparts =>
      obtain rfl := Option.some.inj h
      simp only [List.map_eq_cons_iff, List.map_eq_nil_iff,
        octet?_eq_some_iff] at hparts
      obtain ⟨_, _, hsplit, ⟨h₁, rfl⟩, _, _, rfl, ⟨h₂, rfl⟩,
        _, _, rfl, ⟨h₃, rfl⟩, _, _, rfl,
        ⟨h₄, rfl⟩, rfl⟩ := hparts
      have hwhole := @intercalate_splitAtEach '.' text
      rw [hsplit] at hwhole
      rw [toList_dotted, octets_ofOctets h₁ h₂ h₃ h₄, ← hwhole]
      rfl
    · cases h
  · rintro rfl
    exact a.ofDottedChars?_dotted

theorem ofNumeric?_dotted (a : IPv4) : ofNumeric? a.dotted.toList = some a := by
  have hparts : (a.octets.map decimal).mapM part? = some a.octets := by
    simp [octets, part?_decimal]
  have hbytes := a.octets_lt
  simp only [octets, List.forall_mem_cons] at hbytes
  obtain ⟨h₁, h₂, h₃, h₄, -⟩ := hbytes
  rw [ofNumeric?, splitAtEach_dotted, hparts, Option.bind_some, octets,
    ofParts?, if_pos ⟨h₁, h₂, h₃, h₄⟩]
  exact congrArg some a.ofOctets_octets

/-- The normal form has digits and dots only. -/
theorem not_mem_dotted {c : Char} (hdot : c ≠ '.') (hdigit : c.isDigit = false)
    (a : IPv4) :
    c ∉ a.dotted.toList := by
  have hpart := not_mem_decimal hdigit
  simp [toList_dotted, octets, List.intercalate_cons_cons, hdot, hpart]

theorem beforeZero_dotted (a : IPv4) : Text.beforeZero a.dotted = a.dotted := by
  have hchars : ∀ c ∈ a.dotted.toList, (c.toNat != 0) = true := by
    intro c hc
    refine bne_iff_ne.mpr fun hzero => ?_
    obtain rfl : c = '\x00' := Char.toNat_inj.mp hzero
    exact a.not_mem_dotted (by decide) rfl hc
  rw [Text.beforeZero, List.takeWhile_eq_self_iff.mpr hchars,
    String.ofList_toList]

theorem ofDotted?_eq_some_iff {text : String} {a : IPv4} :
    ofDotted? text = some a ↔ Text.beforeZero text = a.dotted := by
  rw [ofDotted?, ofDottedChars?_eq_some_iff, String.toList_inj]

end IPv4

namespace Endpoint

/-- An endpoint names a socket address only in the normal form. -/
theorem toSocketAddress?_eq_some_iff {e : Endpoint} {a : SocketAddress} :
    e.toSocketAddress? = some a ↔ Text.beforeZero e.address = a.ip.dotted ∧
      e.port = a.port := by
  rw [toSocketAddress?, Option.map_eq_some_iff]
  constructor
  · rintro ⟨ip, hip, rfl⟩
    exact ⟨IPv4.ofDotted?_eq_some_iff.mp hip, rfl⟩
  · rintro ⟨hip, hport⟩
    exact ⟨a.ip, IPv4.ofDotted?_eq_some_iff.mpr hip, by rw [hport]⟩

/-- An endpoint that is made of a socket address names it. -/
@[simp] theorem toSocketAddress?_ofSocketAddress (a : SocketAddress) :
    (ofSocketAddress a).toSocketAddress? = some a :=
  toSocketAddress?_eq_some_iff.mpr ⟨a.ip.beforeZero_dotted, rfl⟩

end Endpoint

end ClockSync.Net
