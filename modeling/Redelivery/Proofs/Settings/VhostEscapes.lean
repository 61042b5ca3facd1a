import Redelivery.Connection.Target
import Redelivery.Proofs.Text.WrittenForm
import Redelivery.Settings.Basic
/-!
# A virtual host inside an address

An address spells the slashes of its virtual host out, as `%2f`, and leaves every other character
as it is, the percent sign too. So what is written tells how the slashes of the host are to be
read, but not how they were spelled: `escapeVhosts_eq_iff`.

Whoever dials resolves all percent escapes. That undoes the spelling of the slashes, whatever
stands around them (`unescape_escapeSlashes`), and besides resolves the escapes that the host had of
its own. So the host comes back exactly if it has none: `decode_vhost_iff`.
-/

namespace Redelivery

set_option autoImplicit false

/-! ## Spelling slashes -/

namespace BrokerAddress

/-- A virtual host as it is written in an address. -/
def escapeVhosts (text : List Char) : List Char := text.flatMap escapeVhost

/-- A virtual host with every `%2f` read as a slash. -/
def readSlashes : List Char → List Char
  | '%' :: '2' :: 'f' :: rest => '/' :: readSlashes rest
  | c :: rest => c :: readSlashes rest
  | [] => []

theorem escapeVhosts_cons (c : Char) (rest : List Char) :
    escapeVhosts (c :: rest) = escapeVhost c ++ escapeVhosts rest := List.flatMap_cons

theorem escapeVhost_of_ne {c : Char} (other : c ≠ '/') : escapeVhost c = [c] := if_neg other

theorem slash_not_mem_escapeVhosts (text : List Char) : '/' ∉ escapeVhosts text := by
  intro member
  obtain ⟨c, -, inside⟩ := List.mem_flatMap.mp member
  rw [escapeVhost] at inside
  split at inside
  · exact absurd inside (by decide)
  · rename_i other
    exact other (List.mem_singleton.mp inside).symm

theorem readSlashes_cons {c : Char} {rest : List Char}
    (other : ∀ more, c :: rest ≠ '%' :: '2' :: 'f' :: more) :
    readSlashes (c :: rest) = c :: readSlashes rest := by
  rw [readSlashes]
  rintro more rfl rfl
  exact other more rfl

/-- What is written begins as the virtual host does, unless with a percent sign. -/
theorem of_escapeVhosts_eq_cons {text rest : List Char} {c : Char} (other : c ≠ '%')
    (written : escapeVhosts text = c :: rest) :
    ∃ tail, text = c :: tail ∧ rest = escapeVhosts tail := by
  cases text with
  | nil => cases written
  | cons first tail =>
      rw [escapeVhosts_cons, escapeVhost] at written
      split at written
      · exact absurd (List.cons.inj written).1.symm other
      · obtain ⟨rfl, same⟩ := List.cons.inj written
        exact ⟨tail, rfl, same.symm⟩

/-- Writing the slashes out makes no difference to their reading. -/
theorem readSlashes_escapeVhosts (text : List Char) :
    readSlashes (escapeVhosts text) = readSlashes text := by
  fun_induction readSlashes text with
  | case1 rest ih => exact congrArg ('/' :: ·) ih
  | case2 c rest unspelled ih =>
      by_cases slash : c = '/'
      · rw [slash]
        exact congrArg ('/' :: ·) ih
      · rw [escapeVhosts_cons, escapeVhost_of_ne slash, List.singleton_append, readSlashes_cons, ih]
        intro more written
        obtain ⟨rfl, behind⟩ := List.cons.inj written
        obtain ⟨tail, rfl, later⟩ := of_escapeVhosts_eq_cons (by decide) behind
        obtain ⟨tail, rfl, -⟩ := of_escapeVhosts_eq_cons (by decide) later.symm
        exact unspelled tail rfl rfl
  | case3 => rfl

theorem escapeVhosts_readSlashes (text : List Char) :
    escapeVhosts (readSlashes text) = escapeVhosts text := by
  fun_induction readSlashes text with
  | case1 rest ih => exact congrArg (['%', '2', 'f'] ++ ·) ih
  | case2 c rest unspelled ih => rw [escapeVhosts_cons, escapeVhosts_cons, ih]
  | case3 => rfl

/-- Two virtual hosts are written alike exactly if they differ in the spelling of slashes
only. -/
theorem escapeVhosts_eq_iff {text other : List Char} :
    escapeVhosts text = escapeVhosts other ↔ readSlashes text = readSlashes other := by
  constructor <;> intro same
  · rw [← readSlashes_escapeVhosts, same, readSlashes_escapeVhosts]
  · rw [← escapeVhosts_readSlashes, same, escapeVhosts_readSlashes]

end BrokerAddress

/-! ## Resolving escapes -/

namespace DialTarget

/-- The octet that two hexadecimal digits write, and what follows them. -/
def hexPair? : Octets → Option (UInt8 × Octets)
  | high :: low :: rest =>
      match hexValue? high, hexValue? low with
      | some upper, some lower => some (16 * upper + lower, rest)
      | _, _ => none
  | _ => none

/-- Octets hold a percent sign that two hexadecimal digits follow. -/
def HoldsEscape (octets : Octets) : Prop :=
  ∃ before after, octets = before ++ 37 :: after ∧ (hexPair? after).isSome = true

theorem unescape_percent (rest : Octets) :
    unescape (37 :: rest) = (hexPair? rest).elim (37 :: unescape rest)
      fun pair => pair.1 :: unescape pair.2 := by
  match rest with
  | [] => rfl
  | [octet] => rfl
  | high :: low :: rest =>
      rw [unescape, hexPair?]
      cases hexValue? high with
      | none => rfl
      | some upper => cases hexValue? low <;> rfl

theorem unescape_cons_of_ne {octet : UInt8} (other : octet ≠ 37) (rest : Octets) :
    unescape (octet :: rest) = octet :: unescape rest := by
  rw [unescape]
  rintro high low more rfl
  exact absurd rfl other

theorem eq_of_hexPair? {octets rest : Octets} {value : UInt8}
    (pair : hexPair? octets = some (value, rest)) : ∃ high low, octets = high :: low :: rest := by
  unfold hexPair? at pair
  split at pair
  · rename_i high low more
    split at pair
    · cases pair
      exact ⟨high, low, rfl⟩
    · cases pair
  · cases pair

/-! ### Octets without escapes -/

theorem length_unescape_le (octets : Octets) : (unescape octets).length ≤ octets.length := by
  fun_induction unescape octets with
  | case1 high low rest upper lower _ _ ih => simp only [List.length_cons]; omega
  | case2 high low rest _ ih => simpa using ih
  | case3 octet rest _ ih => simpa using ih
  | case4 => simp

theorem holdsEscape_cons {octet : UInt8} {rest : Octets} :
    HoldsEscape (octet :: rest) ↔
      octet = 37 ∧ (hexPair? rest).isSome = true ∨ HoldsEscape rest := by
  constructor
  · rintro ⟨before, after, split, pair⟩
    cases before with
    | nil =>
        obtain ⟨rfl, rfl⟩ := List.cons.inj split
        exact .inl ⟨rfl, pair⟩
    | cons first before =>
        obtain ⟨rfl, rfl⟩ := List.cons.inj split
        exact .inr ⟨before, after, rfl, pair⟩
  · rintro (⟨rfl, pair⟩ | ⟨before, after, rfl, pair⟩)
    · exact ⟨[], rest, rfl, pair⟩
    · exact ⟨octet :: before, after, rfl, pair⟩

/-- Octets are resolved to themselves exactly if they hold no escape: resolving one makes them
shorter. -/
theorem unescape_eq_self_iff (octets : Octets) : unescape octets = octets ↔ ¬ HoldsEscape octets := by
  induction octets with
  | nil =>
      refine ⟨?_, fun _ => rfl⟩
      rintro - ⟨before, after, split, -⟩
      cases before <;> cases split
  | cons octet rest ih =>
      rw [holdsEscape_cons]
      by_cases percent : octet = 37
      · subst percent
        rw [unescape_percent]
        cases pair : hexPair? rest with
        | none => simp [ih]
        | some resolved =>
            obtain ⟨high, low, rfl⟩ := eq_of_hexPair? pair
            have shorter := length_unescape_le resolved.2
            refine ⟨fun same => ?_, fun none => absurd (.inl ⟨rfl, rfl⟩) none⟩
            have lengths := congrArg List.length same
            simp only [Option.elim_some, List.length_cons] at lengths
            omega
      · rw [unescape_cons_of_ne percent]
        simp [ih, percent]

/-! ### Slashes -/

/-- Octets with every slash spelled out. -/
def escapeSlashes (octets : Octets) : Octets :=
  octets.flatMap fun octet => if octet = 47 then [37, 50, 102] else [octet]

theorem escapeSlashes_slash (rest : Octets) :
    escapeSlashes (47 :: rest) = 37 :: 50 :: 102 :: escapeSlashes rest := rfl

theorem escapeSlashes_cons_of_ne {octet : UInt8} (other : octet ≠ 47) (rest : Octets) :
    escapeSlashes (octet :: rest) = octet :: escapeSlashes rest := by
  rw [escapeSlashes, List.flatMap_cons, if_neg other]
  rfl

theorem escapeSlashes_append (octets more : Octets) :
    escapeSlashes (octets ++ more) = escapeSlashes octets ++ escapeSlashes more :=
  List.flatMap_append

theorem escapeSlashes_eq_self {octets : Octets} (slashless : 47 ∉ octets) :
    escapeSlashes octets = octets := by
  induction octets with
  | nil => rfl
  | cons octet rest ih =>
      obtain ⟨other, later⟩ := not_or.mp (List.mem_cons.not.mp slashless)
      rw [escapeSlashes_cons_of_ne (Ne.symm other), ih later]

/-- Neither a slash nor what it is spelled with begins with a hexadecimal digit. -/
theorem hexPair?_escapeSlashes (octets : Octets) :
    hexPair? (escapeSlashes octets) =
      (hexPair? octets).map fun pair => (pair.1, escapeSlashes pair.2) := by
  match octets with
  | [] => rfl
  | [octet] =>
      by_cases slash : octet = 47
      · rw [slash]
        rfl
      · rw [escapeSlashes_cons_of_ne slash]
        rfl
  | high :: low :: rest =>
      by_cases first : high = 47
      · rw [first]
        rfl
      · rw [escapeSlashes_cons_of_ne first]
        by_cases second : low = 47
        · rw [second, escapeSlashes_slash, hexPair?, hexPair?]
          cases hexValue? high <;> rfl
        · rw [escapeSlashes_cons_of_ne second, hexPair?, hexPair?]
          cases hexValue? high with
          | none => rfl
          | some upper => cases hexValue? low <;> rfl

/-- Resolving undoes the spelling of slashes, whatever stands around them. -/
theorem unescape_escapeSlashes (octets : Octets) :
    unescape (escapeSlashes octets) = unescape octets := by
  match octets with
  | [] => rfl
  | octet :: rest =>
      by_cases percent : octet = 37
      · subst percent
        rw [escapeSlashes_cons_of_ne (by decide), unescape_percent, unescape_percent,
          hexPair?_escapeSlashes]
        cases pair : hexPair? rest with
        | none => exact congrArg (37 :: ·) (unescape_escapeSlashes rest)
        | some resolved =>
            obtain ⟨high, low, rfl⟩ := eq_of_hexPair? pair
            exact congrArg (resolved.1 :: ·) (unescape_escapeSlashes resolved.2)
      · rw [unescape_cons_of_ne percent]
        by_cases slash : octet = 47
        · subst slash
          rw [escapeSlashes_slash, unescape_percent]
          exact congrArg (47 :: ·) (unescape_escapeSlashes rest)
        · rw [escapeSlashes_cons_of_ne slash, unescape_cons_of_ne percent,
            unescape_escapeSlashes rest]
termination_by octets.length

end DialTarget

/-! ## There and back -/

namespace Utf8

theorem slash_not_mem_utf8EncodeChar {c : Char} (other : c ≠ '/') :
    (47 : UInt8) ∉ String.utf8EncodeChar c := by
  have code : c.val.toNat ≠ 47 := fun same => other (ofNat_code c same.symm).symm
  have apart : ∀ n < 256, n ≠ 47 → (47 : UInt8) ≠ UInt8.ofNat n := by
    intro n fits different same
    have codes := congrArg UInt8.toNat same
    rw [toNat_ofNat_of_lt fits] at codes
    exact different codes.symm
  intro member
  unfold String.utf8EncodeChar at member
  generalize c.val.toNat = v at code member
  simp only at member
  -- In a character of several octets each of them is at least 0x80.
  split at member
  · exact apart v (by omega) code (List.mem_singleton.mp member)
  · split at member
    · simp only [List.mem_cons, List.not_mem_nil, or_false] at member
      rcases member with same | same <;> exact apart _ (by omega) (by omega) same
    · split at member
      · simp only [List.mem_cons, List.not_mem_nil, or_false] at member
        rcases member with same | same | same <;> exact apart _ (by omega) (by omega) same
      · simp only [List.mem_cons, List.not_mem_nil, or_false] at member
        rcases member with same | same | same | same <;> exact apart _ (by omega) (by omega) same

theorem encode_escapeVhosts (text : List Char) :
    encode (String.ofList (BrokerAddress.escapeVhosts text)) =
      DialTarget.escapeSlashes (encode (String.ofList text)) := by
  rw [encode, encode, String.toList_ofList, String.toList_ofList]
  induction text with
  | nil => rfl
  | cons c rest ih =>
      rw [BrokerAddress.escapeVhosts_cons, List.flatMap_append, ih, List.flatMap_cons,
        DialTarget.escapeSlashes_append]
      by_cases slash : c = '/'
      · rw [slash]
        rfl
      · rw [BrokerAddress.escapeVhost_of_ne slash, List.flatMap_singleton,
          DialTarget.escapeSlashes_eq_self (slash_not_mem_utf8EncodeChar slash)]

end Utf8

/-- A virtual host comes back out of an address exactly if it holds no escape of its own. -/
theorem DialTarget.decode_vhost_iff (vhost : String) :
    Utf8.decode? (unescape (Utf8.encode (String.ofList
        (BrokerAddress.escapeVhosts vhost.toList)))) = some vhost ↔
      ¬ HoldsEscape (Utf8.encode vhost) := by
  rw [Utf8.encode_escapeVhosts, unescape_escapeSlashes, String.ofList_toList,
    Utf8.decode?_eq_some_iff_eq_encode, unescape_eq_self_iff]

end Redelivery
