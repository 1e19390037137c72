import Servir.Auth.Types

/-!
# A transparent instance of the libraries

What is assumed of `argon2` and `jsonwebtoken` can be met: here a hash shows the
salt and the password, and a token shows the secret and the claims. The model
runs on it where a concrete run is wanted.
-/

namespace Servir.Transparent

def putChar (c : Char) : List Char := if c = '!' ∨ c = '.' then ['.', c] else [c]

/-- `!` ends the string, and a dot escapes itself and `!`. -/
def putString (s : List Char) : List Char := s.flatMap putChar ++ ['!']

def takeString : List Char → Option (List Char × List Char)
  | '!' :: rest => some ([], rest)
  | '.' :: c :: rest => (takeString rest).map (fun (s, rest) => (c :: s, rest))
  | c :: rest => (takeString rest).map (fun (s, rest) => (c :: s, rest))
  | [] => none

theorem takeString_putString (s rest : List Char) :
    takeString (putString s ++ rest) = some (s, rest) := by
  induction s with
  | nil => rfl
  | cons c s ih =>
    have hput : putString (c :: s) ++ rest = putChar c ++ (putString s ++ rest) := by
      simp [putString]
    rw [hput, putChar]
    split_ifs with hc
    · simp [takeString, ih]
    · obtain ⟨hbang, hdot⟩ := not_or.1 hc
      simp [takeString, hdot, ih]

/-- The `k` low hexadecimal digits of a number, lowest first, on the letters `a` to `p`. -/
def putDigits : ℕ → ℕ → List Char
  | 0, _ => []
  | k + 1, n => Char.ofNat (n % 16 + 97) :: putDigits k (n / 16)

def takeDigits : ℕ → List Char → Option (ℕ × List Char)
  | 0, rest => some (0, rest)
  | _ + 1, [] => none
  | k + 1, c :: rest =>
    (takeDigits k rest).map (fun (n, rest) => (c.toNat - 97 + 16 * n, rest))

private theorem toNat_letter {b : ℕ} (h : b < 256) : (Char.ofNat b).toNat = b := by
  have hvalid : b.isValidChar := .inl (by omega)
  rw [Char.ofNat, dif_pos hvalid]
  rfl

theorem takeDigits_putDigits (k n : ℕ) (rest : List Char) (h : n < 16 ^ k) :
    takeDigits k (putDigits k n ++ rest) = some (n, rest) := by
  induction k generalizing n with
  | zero =>
    obtain rfl : n = 0 := by simpa using h
    rfl
  | succ k ih =>
    have hdiv : n / 16 < 16 ^ k := Nat.div_lt_of_lt_mul (by rwa [← pow_succ'])
    have hchar : (Char.ofNat (n % 16 + 97)).toNat = n % 16 + 97 := toNat_letter (by omega)
    simp only [putDigits, List.cons_append, takeDigits, ih _ hdiv, Option.map_some, hchar,
      Nat.add_sub_cancel, Nat.mod_add_div]

theorem takeDigits_putUInt64 (n : UInt64) (rest : List Char) :
    takeDigits 16 (putDigits 16 n.toNat ++ rest) = some (n.toNat, rest) :=
  takeDigits_putDigits 16 n.toNat rest n.toNat_lt

def putKind : TokenKind → Char
  | .access => 'a'
  | .refresh => 'r'

def takeKind (c : Char) : TokenKind := if c = 'a' then .access else .refresh

/-- A token in the clear. -/
def putToken (secret : String) (c : Claims) : List Char :=
  putString secret.toList ++ (putString c.sub.toList ++ (putString c.username.toList ++
    (putDigits 16 c.exp.toNat ++ (putDigits 16 c.iat.toNat ++ (putString c.jti.toList ++
      [putKind c.kind])))))

def takeToken (token : List Char) : Option (String × Claims) := do
  let (secret, rest) ← takeString token
  let (sub, rest) ← takeString rest
  let (username, rest) ← takeString rest
  let (exp, rest) ← takeDigits 16 rest
  let (iat, rest) ← takeDigits 16 rest
  let (jti, rest) ← takeString rest
  match rest with
  | [kind] => some (String.ofList secret, ⟨String.ofList sub, String.ofList username,
      UInt64.ofNat exp, UInt64.ofNat iat, String.ofList jti, takeKind kind⟩)
  | _ => none

theorem takeToken_putToken (secret : String) (c : Claims) :
    takeToken (putToken secret c) = some (secret, c) := by
  have hkind : takeKind (putKind c.kind) = c.kind := by cases c.kind <;> rfl
  simp [takeToken, putToken, takeString_putString, takeDigits_putUInt64, hkind]

def openToken (secret token : String) : Except String Claims :=
  match takeToken token.toList with
  | some (secret', claims) => if secret' = secret then .ok claims else .error "InvalidSignature"
  | none => .error "InvalidToken"

theorem openToken_putToken (secret : String) (c : Claims) :
    openToken secret (String.ofList (putToken secret c)) = .ok c := by
  rw [openToken, String.toList_ofList, takeToken_putToken]
  exact if_pos rfl

def hashPassword (salt password : String) : String :=
  String.ofList (putString salt.toList ++ password.toList)

/-- The password that a hash shows. -/
def openHash (hash : String) : Option (List Char) := (takeString hash.toList).map Prod.snd

theorem openHash_hashPassword (salt password : String) :
    openHash (hashPassword salt password) = some password.toList := by
  rw [openHash, hashPassword, String.toList_ofList, takeString_putString, Option.map_some]

def crypto : Crypto where
  hashPassword salt password := .ok (hashPassword salt password)
  parseHash hash := if (openHash hash).isSome then .ok () else .error "password hash invalid"
  verifyPassword password hash := openHash hash == some password.toList
  encode secret claims := .ok (String.ofList (putToken secret claims))
  openToken := openToken

theorem crypto_parseHash (hash : String) : crypto.parseHash hash =
    if (openHash hash).isSome then .ok () else .error "password hash invalid" := rfl

theorem crypto_verifyPassword (password hash : String) :
    crypto.verifyPassword password hash = (openHash hash == some password.toList) := rfl

theorem crypto_openToken (secret token : String) :
    crypto.openToken secret token = openToken secret token := rfl

theorem crypto_hashSound : crypto.HashSound where
  parse_hash {salt password hash} h := by
    obtain rfl : hashPassword salt password = hash := Except.ok.inj h
    rw [crypto_parseHash, openHash_hashPassword]
    rfl
  verify_hash {salt password hash} p h := by
    obtain rfl : hashPassword salt password = hash := Except.ok.inj h
    rw [crypto_verifyPassword, openHash_hashPassword, beq_iff_eq, Option.some.injEq, String.toList_inj, eq_comm]

theorem crypto_tokenSound : crypto.TokenSound where
  encode_ok secret claims := ⟨_, rfl⟩
  open_encode {secret claims token} h := by
    obtain rfl : String.ofList (putToken secret claims) = token := Except.ok.inj h
    rw [crypto_openToken, openToken_putToken]

end Servir.Transparent
