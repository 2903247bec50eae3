import Mathlib.Data.Nat.Bitwise

/-!
# Big-endian 32-bit words

The network byte order codec of a 32-bit word: `ofBytes` assembles a word from
four bytes by shifts and disjunctions, `byte` cuts one byte out by a shift and
a mask. Both are characterized by plain arithmetic (`ofBytes_toNat`,
`byte_toNat`), from which the two round trips follow by linear arithmetic: no
bit is ever inspected twice.
-/

namespace Word

/-- The word whose bytes are `a b c d`, most significant first. -/
def ofBytes (a b c d : UInt8) : UInt32 :=
  a.toUInt32 <<< 24 ||| b.toUInt32 <<< 16 ||| c.toUInt32 <<< 8 ||| d.toUInt32

/-- The byte of `w` that starts at bit `k`. -/
def byte (w : UInt32) (k : UInt32) : UInt8 := ((w >>> k) &&& 0xFF).toUInt8

/-- A disjunction of a shifted number with one below the shift is a sum. -/
private theorem shiftLeft_or {a b k : Nat} (h : b < 2 ^ k) :
    a <<< k ||| b = a * 2 ^ k + b := by
  rw [← Nat.shiftLeft_add_eq_or_of_lt h, Nat.shiftLeft_eq]

theorem ofBytes_toNat (a b c d : UInt8) :
    (ofBytes a b c d).toNat
      = a.toNat * 2 ^ 24 + b.toNat * 2 ^ 16 + c.toNat * 2 ^ 8 + d.toNat := by
  have ha := a.toNat_lt
  have hb := b.toNat_lt
  have hc := c.toNat_lt
  have hd := d.toNat_lt
  simp only [ofBytes, UInt32.toNat_or, UInt32.toNat_shiftLeft, UInt8.toNat_toUInt32]
  have h24 : a.toNat <<< 24 % 2 ^ 32 = a.toNat <<< 24 := by
    rw [Nat.shiftLeft_eq]; omega
  have h16 : b.toNat <<< 16 % 2 ^ 32 = b.toNat <<< 16 := by
    rw [Nat.shiftLeft_eq]; omega
  have h8 : c.toNat <<< 8 % 2 ^ 32 = c.toNat <<< 8 := by
    rw [Nat.shiftLeft_eq]; omega
  show a.toNat <<< 24 % 2 ^ 32 ||| b.toNat <<< 16 % 2 ^ 32 |||
    c.toNat <<< 8 % 2 ^ 32 ||| d.toNat = _
  rw [h24, h16, h8, Nat.or_assoc, Nat.or_assoc, shiftLeft_or (k := 8) hd,
    shiftLeft_or (k := 16) (by omega), shiftLeft_or (k := 24) (by omega)]
  omega

theorem byte_toNat (w k : UInt32) (hk : k.toNat < 32) :
    (byte w k).toNat = w.toNat / 2 ^ k.toNat % 256 := by
  simp only [byte, UInt32.toNat_toUInt8, UInt32.toNat_and, UInt32.toNat_shiftRight,
    Nat.shiftRight_eq_div_pow]
  rw [Nat.mod_eq_of_lt hk]
  show (w.toNat / 2 ^ k.toNat &&& (2 ^ 8 - 1)) % 256 = _
  rw [Nat.and_two_pow_sub_one_eq_mod, Nat.mod_mod]

/-- The bytes of a word, most significant first. -/
def toBytes (w : UInt32) : List UInt8 := [byte w 24, byte w 16, byte w 8, byte w 0]

@[simp] theorem toBytes_length (w : UInt32) : (toBytes w).length = 4 := rfl

/-- Assembling the bytes of a word gives the word back. -/
@[simp] theorem ofBytes_byte (w : UInt32) :
    ofBytes (byte w 24) (byte w 16) (byte w 8) (byte w 0) = w := by
  apply UInt32.toNat_inj.mp
  have hw := w.toNat_lt
  rw [ofBytes_toNat, byte_toNat w 24 (by decide), byte_toNat w 16 (by decide),
    byte_toNat w 8 (by decide), byte_toNat w 0 (by decide)]
  show w.toNat / 2 ^ 24 % 256 * 2 ^ 24 + w.toNat / 2 ^ 16 % 256 * 2 ^ 16 +
    w.toNat / 2 ^ 8 % 256 * 2 ^ 8 + w.toNat / 2 ^ 0 % 256 = w.toNat
  omega

/-- Cutting an assembled word gives its bytes back. -/
theorem byte_ofBytes (a b c d : UInt8) :
    byte (ofBytes a b c d) 24 = a ∧ byte (ofBytes a b c d) 16 = b ∧
      byte (ofBytes a b c d) 8 = c ∧ byte (ofBytes a b c d) 0 = d := by
  have ha := a.toNat_lt
  have hb := b.toNat_lt
  have hc := c.toNat_lt
  have hd := d.toNat_lt
  refine ⟨?_, ?_, ?_, ?_⟩ <;> apply UInt8.toNat_inj.mp <;>
    rw [byte_toNat _ _ (by decide), ofBytes_toNat]
  · show _ / 2 ^ 24 % 256 = _
    omega
  · show _ / 2 ^ 16 % 256 = _
    omega
  · show _ / 2 ^ 8 % 256 = _
    omega
  · show _ / 2 ^ 0 % 256 = _
    omega

@[simp] theorem toBytes_ofBytes (a b c d : UInt8) :
    toBytes (ofBytes a b c d) = [a, b, c, d] := by
  obtain ⟨h24, h16, h8, h0⟩ := byte_ofBytes a b c d
  rw [toBytes, h24, h16, h8, h0]

/-- A byte shifted in behind the others moves them up. -/
theorem ofBytes_shiftLeft (x a b c d : UInt8) :
    ofBytes x a b c <<< 8 ||| d.toUInt32 = ofBytes a b c d := by
  apply UInt32.toNat_inj.mp
  have hx := x.toNat_lt
  have ha := a.toNat_lt
  have hb := b.toNat_lt
  have hc := c.toNat_lt
  have hd := d.toNat_lt
  have hshift : (ofBytes x a b c).toNat <<< 8 % 2 ^ 32
      = (a.toNat * 2 ^ 16 + b.toNat * 2 ^ 8 + c.toNat) <<< 8 := by
    rw [ofBytes_toNat, Nat.shiftLeft_eq, Nat.shiftLeft_eq]
    omega
  rw [UInt32.toNat_or, UInt32.toNat_shiftLeft, UInt8.toNat_toUInt32]
  show (ofBytes x a b c).toNat <<< 8 % 2 ^ 32 ||| d.toNat = _
  rw [hshift, shiftLeft_or (k := 8) hd, ofBytes_toNat]
  omega

/-- The first byte goes out at the top. -/
theorem toBytes_shiftLeft (w : UInt32) (c : UInt8) :
    toBytes (w <<< 8 ||| c.toUInt32) = (toBytes w).tail ++ [c] := by
  rw [← ofBytes_byte w, ofBytes_shiftLeft, toBytes_ofBytes, toBytes_ofBytes]
  rfl

/-- A loop that shifts bytes in leaves the last four of the word's bytes and these;
induction on the bytes. -/
theorem toBytes_foldl_shiftLeft (w : UInt32) (cs : List UInt8) :
    toBytes (cs.foldl (fun w c => w <<< 8 ||| c.toUInt32) w)
      = (toBytes w ++ cs).drop cs.length := by
  induction cs generalizing w with
  | nil => exact (List.append_nil _).symm
  | cons c cs ih =>
    rw [List.foldl_cons, ih, toBytes_shiftLeft, List.append_assoc]
    rfl

end Word
