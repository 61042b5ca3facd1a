import Redelivery.Proofs.Settings.VhostEscapes
/-!
# What an address tells

The text of an address is the configured user, password, host, port and virtual host with
delimiters between them. Only the slashes of the virtual host are written otherwise than they are
configured (`toList_uri`).

So the text tells its parts apart where they are clear of the delimiters, and then all that it
loses is how the slashes of the virtual host were spelled (`uri_eq_iff_of_delimited`). A colon in the
user or an at sign in the host could as well be the delimiter, and another address has the same text
(`exists_uri_eq_of_colon`, `exists_uri_eq_of_atSign`). `uri_tells_apart` puts this together, with
what whoever dials finds behind the slash.
-/

namespace Redelivery

set_option autoImplicit false

namespace BrokerAddress

/-! ## Delimiters -/

section Cuts

variable {d : Char} {before after other more : List Char}

/-- Texts are cut at the first of a delimiter in one way only. -/
theorem cut_first (clear : d ∉ before) (alike : d ∉ other) :
    before ++ d :: after = other ++ d :: more ↔ before = other ∧ after = more := by
  induction before generalizing other with
  | nil =>
      cases other with
      | nil => simp
      | cons c rest =>
          have first : d ≠ c := fun same => alike (same ▸ List.mem_cons_self)
          simp [first]
  | cons c rest ih =>
      obtain ⟨first, later⟩ := not_or.mp (List.mem_cons.not.mp clear)
      cases other with
      | nil => simp [Ne.symm first]
      | cons c' rest' =>
          have later' : d ∉ rest' := fun member => alike (List.mem_cons_of_mem c' member)
          rw [List.cons_append, List.cons_append, List.cons.injEq, ih later later',
            List.cons.injEq, and_assoc]

theorem cut_last (clear : d ∉ after) (alike : d ∉ more) :
    before ++ d :: after = other ++ d :: more ↔ before = other ∧ after = more := by
  have reversed : ∀ start rest : List Char,
      (start ++ d :: rest).reverse = rest.reverse ++ d :: start.reverse := by simp
  rw [← List.reverse_inj, reversed, reversed,
    cut_first (List.mem_reverse.not.mpr clear) (List.mem_reverse.not.mpr alike),
    List.reverse_inj, List.reverse_inj, and_comm]

end Cuts

/-! ## The parts of the text -/

/-- The host and the port as they are written. -/
def site (address : BrokerAddress) : List Char :=
  address.host.toList ++ ':' :: Nat.toDigits 10 address.port

/-- The virtual host as it is written, with the slash before it. -/
def path (address : BrokerAddress) : List Char :=
  if address.vhost = "" then [] else '/' :: escapeVhosts address.vhost.toList

theorem toList_uri (address : BrokerAddress) :
    address.uri.toList = "amqp://".toList ++ (address.user.toList ++ ':' ::
      (address.password.toList ++ '@' :: (address.site ++ address.path))) := by
  rw [uri, path, site]
  by_cases absent : address.vhost = ""
  · simp [absent]
  · simp [absent, escapeVhosts]

theorem uri_eq_iff_parts (address other : BrokerAddress) :
    address.uri = other.uri ↔
      address.user.toList ++ ':' :: (address.password.toList ++ '@' ::
          (address.site ++ address.path)) =
        other.user.toList ++ ':' :: (other.password.toList ++ '@' :: (other.site ++ other.path)) := by
  rw [← String.toList_inj, toList_uri, toList_uri, List.append_cancel_left_eq]

/-! ### Port and virtual host -/

theorem not_mem_digits {c : Char} (other : c.isDigit = false) (n : Nat) :
    c ∉ Nat.toDigits 10 n := by
  intro member
  have digit := Nat.isDigit_of_mem_toDigits (by decide) (by decide) member
  rw [other] at digit
  cases digit

theorem digits_inj {n m : Nat} : Nat.toDigits 10 n = Nat.toDigits 10 m ↔ n = m := by
  refine ⟨fun same => ?_, congrArg _⟩
  rw [← @Nat.ofDigitChars_ten_toDigits n, same, Nat.ofDigitChars_ten_toDigits]

/-- Ports are without colons, so the last one stands before them. -/
theorem site_eq_iff (address other : BrokerAddress) :
    address.site = other.site ↔ address.host = other.host ∧ address.port = other.port := by
  rw [site, site, cut_last (not_mem_digits (by decide) _) (not_mem_digits (by decide) _),
    String.toList_inj, digits_inj]

theorem escapeVhosts_eq_nil_iff {vhost : String} :
    escapeVhosts vhost.toList = [] ↔ vhost = "" := by
  rw [← String.toList_eq_nil_iff]
  cases vhost.toList with
  | nil => simp [escapeVhosts]
  | cons c rest =>
      rw [escapeVhosts_cons, escapeVhost]
      split <;> simp

theorem path_eq_iff (address other : BrokerAddress) :
    address.path = other.path ↔
      readSlashes address.vhost.toList = readSlashes other.vhost.toList := by
  rw [← escapeVhosts_eq_iff, path, path]
  by_cases absent : address.vhost = "" <;> by_cases absent' : other.vhost = ""
  · simp [absent, absent']
  · rw [if_pos absent, if_neg absent', escapeVhosts_eq_nil_iff.mpr absent, eq_comm,
      eq_comm (a := []), escapeVhosts_eq_nil_iff]
    exact ⟨nofun, fun none => absurd none absent'⟩
  · rw [if_neg absent, if_pos absent', escapeVhosts_eq_nil_iff.mpr absent',
      escapeVhosts_eq_nil_iff]
    exact ⟨nofun, fun none => absurd none absent⟩
  · rw [if_neg absent, if_neg absent', List.cons.injEq, and_iff_right rfl]

/-! ## Clear parts -/

/-- The parts of an address are clear of the delimiters that end them. -/
structure Delimited (address : BrokerAddress) : Prop where
  user : ':' ∉ address.user.toList
  password : '/' ∉ address.password.toList
  host : '@' ∉ address.host.toList ∧ '/' ∉ address.host.toList

theorem Delimited.slash_not_mem {address : BrokerAddress} (delimited : address.Delimited) :
    '/' ∉ address.password.toList ++ '@' :: address.site := by
  have port := not_mem_digits (show '/'.isDigit = false by decide) address.port
  simp [site, delimited.password, delimited.host.2, port]

theorem Delimited.atSign_not_mem {address : BrokerAddress} (delimited : address.Delimited) :
    '@' ∉ address.site := by
  have port := not_mem_digits (show '@'.isDigit = false by decide) address.port
  simp [site, delimited.host.1, port]

theorem append_path_eq_iff {before after : List Char} {address other : BrokerAddress}
    (clear : '/' ∉ before) (alike : '/' ∉ after) :
    before ++ address.path = after ++ other.path ↔
      before = after ∧ address.path = other.path := by
  have cut : ∀ {text : List Char} (address : BrokerAddress), '/' ∉ text →
      (text ++ address.path).takeWhile (· ≠ '/') = text := by
    intro text address slashless
    have all : ∀ c ∈ text, decide (c ≠ '/') = true :=
      fun c member => decide_eq_true (ne_of_mem_of_not_mem member slashless)
    rw [List.takeWhile_append_of_pos all, path]
    split <;> simp
  refine ⟨fun same => ?_, fun ⟨texts, paths⟩ => by rw [texts, paths]⟩
  have texts : before = after := by rw [← cut address clear, same, cut other alike]
  rw [texts, List.append_cancel_left_eq] at same
  exact ⟨texts, same⟩

/-- Clear addresses have the same text exactly if they differ in the spelling of slashes only. -/
theorem uri_eq_iff_of_delimited {address other : BrokerAddress} (delimited : address.Delimited)
    (alike : other.Delimited) :
    address.uri = other.uri ↔
      address.user = other.user ∧ address.password = other.password ∧
        address.host = other.host ∧ address.port = other.port ∧
        readSlashes address.vhost.toList = readSlashes other.vhost.toList := by
  rw [uri_eq_iff_parts, cut_first delimited.user alike.user, ← List.cons_append,
    ← List.cons_append, ← List.append_assoc, ← List.append_assoc,
    append_path_eq_iff delimited.slash_not_mem alike.slash_not_mem,
    cut_last delimited.atSign_not_mem alike.atSign_not_mem, site_eq_iff, path_eq_iff,
    String.toList_inj, String.toList_inj]
  simp only [and_assoc]

/-! ## Delimiters inside parts -/

theorem ofList_ne_of_length_lt {part : List Char} {text : String}
    (shorter : part.length < text.toList.length) : String.ofList part ≠ text := by
  rintro rfl
  simp at shorter

/-- What follows a colon in the user could as well begin the password. -/
theorem exists_uri_eq_of_colon {address : BrokerAddress} (colon : ':' ∈ address.user.toList) :
    ∃ other : BrokerAddress, other.uri = address.uri ∧ other.user ≠ address.user := by
  obtain ⟨start, rest, split⟩ := List.append_of_mem colon
  refine ⟨{ address with
    user := String.ofList start
    password := String.ofList (rest ++ ':' :: address.password.toList) }, ?_,
    ofList_ne_of_length_lt ?_⟩
  · rw [uri_eq_iff_parts, split]
    simp [site, path]
  · rw [split, List.length_append, List.length_cons]
    omega

/-- What precedes an at sign in the host could as well end the password. -/
theorem exists_uri_eq_of_atSign {address : BrokerAddress} (sign : '@' ∈ address.host.toList) :
    ∃ other : BrokerAddress, other.uri = address.uri ∧ other.host ≠ address.host := by
  obtain ⟨start, rest, split⟩ := List.append_of_mem sign
  refine ⟨{ address with
    password := String.ofList (address.password.toList ++ '@' :: start)
    host := String.ofList rest }, ?_, ofList_ne_of_length_lt ?_⟩
  · rw [uri_eq_iff_parts, site, site, split]
    simp [path]
  · rw [split, List.length_append, List.length_cons]
    omega

/-- **What the text of an address tells.** Addresses whose parts are clear of the delimiters have
the same text exactly if they are the same up to the spelling of the slashes of their virtual hosts.
With a colon in the user or an at sign in the host, an address shares its text with one of another
user or host. Behind the slash that ends the port, the last one, stands a text that percent-decodes
to the virtual host exactly if the virtual host holds no percent escape itself. -/
theorem uri_tells_apart (address : BrokerAddress) :
    (address.Delimited → ∀ other : BrokerAddress, other.Delimited →
      (address.uri = other.uri ↔
        address.user = other.user ∧ address.password = other.password ∧
          address.host = other.host ∧ address.port = other.port ∧
          readSlashes address.vhost.toList = readSlashes other.vhost.toList)) ∧
      (':' ∈ address.user.toList ∨ '@' ∈ address.host.toList →
        ∃ other : BrokerAddress, other.uri = address.uri ∧
          (other.user ≠ address.user ∨ other.host ≠ address.host)) ∧
      (address.vhost ≠ "" →
        ∃ tail, address.uri = { address with vhost := "" }.uri ++ "/" ++ tail ∧
          '/' ∉ tail.toList ∧
          (Utf8.decode? (DialTarget.unescape (Utf8.encode tail)) = some address.vhost ↔
            ¬ DialTarget.HoldsEscape (Utf8.encode address.vhost))) := by
  refine ⟨fun delimited other alike => uri_eq_iff_of_delimited delimited alike, ?_, ?_⟩
  · rintro (colon | sign)
    · obtain ⟨other, same, user⟩ := exists_uri_eq_of_colon colon
      exact ⟨other, same, .inl user⟩
    · obtain ⟨other, same, host⟩ := exists_uri_eq_of_atSign sign
      exact ⟨other, same, .inr host⟩
  · intro present
    refine ⟨_, ?_, ?_, DialTarget.decode_vhost_iff address.vhost⟩
    · rw [uri, if_neg present, uri, if_pos rfl, escapeVhosts]
    · rw [String.toList_ofList]
      exact slash_not_mem_escapeVhosts _

/-! ## Poles -/

def guest (vhost : String) : BrokerAddress where
  host := "localhost"
  port := 5672
  user := "guest"
  password := "guest"
  vhost := vhost
  recoverySeconds := usualRecoverySeconds
  space := none

theorem guest_delimited (vhost : String) : (guest vhost).Delimited where
  user := show ':' ∉ "guest".toList by decide
  password := show '/' ∉ "guest".toList by decide
  host := show '@' ∉ "localhost".toList ∧ '/' ∉ "localhost".toList by decide

/-- A guest of a virtual host with a slash in its name shares the address with one who has spelled
the slash out, and a guest of `stock` does not. -/
theorem uri_tells_apart_guest :
    (guest "a/b").uri = (guest "a%2fb").uri ∧ (guest "a/b").uri ≠ (guest "stock").uri := by
  have tells := (uri_tells_apart (guest "a/b")).1 (guest_delimited "a/b")
  refine ⟨(tells (guest "a%2fb") (guest_delimited _)).mpr ⟨rfl, rfl, rfl, rfl, by decide⟩,
    fun same => ?_⟩
  obtain ⟨-, -, -, -, read⟩ := (tells (guest "stock") (guest_delimited _)).mp same
  exact absurd read (by decide)

/-- Addresses share a text. The virtual hosts `/` and `%2f` do, and whoever dials reads it as
`/`; so do a user with a colon and a password that begins with the rest of its name. -/
theorem uri_confuses :
    (guest "/").uri = (guest "%2f").uri ∧
      (guest "%2f").uri = (guest "").uri ++ "/" ++ "%2f" ∧
      Utf8.decode? (DialTarget.unescape (Utf8.encode "%2f")) = some "/" ∧
      { guest "" with user := "a:b", password := "c" }.uri =
        { guest "" with user := "a", password := "b:c" }.uri := by
  refine ⟨rfl, rfl, ?_, rfl⟩
  rw [Utf8.decode?_eq_some_iff_eq_encode]
  decide

end BrokerAddress

end Redelivery
