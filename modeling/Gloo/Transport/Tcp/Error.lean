import Mathlib

set_option autoImplicit false

/-! # The TCP transport's errors

`tcp/error.h` declares `Error`: a flag, `operator bool`, true when something went wrong, and a
message. `TimeoutError` and `LoopError` only pass a message to `Error(msg)`. Three subclasses
build their message in `what()` (`error.cc`) from their own fields instead:

* `SystemError`: the system call, then `strerror(error_)`;
* `ShortReadError` and `ShortWriteError`: `"short read (got "` or `"short write (got "`, the byte
  count transferred, `" of "`, the count expected, `" bytes)"`.

All three end with `" (peer: …)"` when the remote address prints as a non-empty string.

`strerror` and `Address::str()` are declared elsewhere (`<cstring>` and `address.h`): `what()`
takes the first as an argument, and an error keeps its remote address as the text `str()` prints for it.

The result is that a short read or short write message loses nothing: two such errors print the
same message only when they are the same error (`shortIo_what_inj`). A count prints as an
optional `-` and decimal digits, never a space, so each field of the message ends at the space
after it (`append_space_inj`), and the decimal digits give the count back
(`decimalValue_toDigits`).
-/

namespace Gloo.Transport.Tcp

/-! ## Printing a count -/

/-- The value of the decimal digits `cs` (most significant first) after the value `acc`. -/
def decimalValue (acc : Nat) (cs : List Char) : Nat :=
  cs.foldl (fun acc c => 10 * acc + (c.toNat - 48)) acc

theorem toNat_digitChar {d : Nat} (h : d < 10) : (Nat.digitChar d).toNat - 48 = d := by
  interval_cases d <;> rfl

theorem isDigit_digitChar {d : Nat} (h : d < 10) : (Nat.digitChar d).isDigit := by
  interval_cases d <;> rfl

/-- The digits `Nat.toDigitsCore` puts before `acc` continue its value; the fuel is enough when
    it exceeds `n`, as `Nat.toDigits` gives it. -/
theorem decimalValue_toDigitsCore (fuel n : Nat) (acc : List Char) (h : n < fuel) :
    decimalValue 0 (Nat.toDigitsCore 10 fuel n acc) = decimalValue n acc := by
  induction fuel generalizing n acc with
  | zero => omega
  | succ fuel ih =>
    have hd := toNat_digitChar (Nat.mod_lt n (by omega : 10 > 0))
    simp only [Nat.toDigitsCore]
    split
    · simp only [decimalValue, List.foldl_cons, hd, Nat.mul_zero, Nat.zero_add]
      rw [Nat.mod_eq_of_lt (by omega)]
    · rw [ih _ _ (by omega)]
      simp only [decimalValue, List.foldl_cons, hd, Nat.div_add_mod]

theorem decimalValue_toDigits (n : Nat) : decimalValue 0 (Nat.toDigits 10 n) = n :=
  decimalValue_toDigitsCore (n + 1) n [] (by omega)

theorem isDigit_of_mem_toDigitsCore (fuel n : Nat) (acc : List Char) :
    ∀ c ∈ Nat.toDigitsCore 10 fuel n acc, c ∈ acc ∨ c.isDigit := by
  induction fuel generalizing n acc with
  | zero => exact fun c h => .inl h
  | succ fuel ih =>
    have hd := isDigit_digitChar (Nat.mod_lt n (by omega : 10 > 0))
    have step : ∀ c ∈ Nat.digitChar (n % 10) :: acc, c ∈ acc ∨ c.isDigit := by
      rintro c (_ | ⟨_, hc⟩)
      exacts [.inr hd, .inl hc]
    intro c hc
    simp only [Nat.toDigitsCore] at hc
    split at hc
    · exact step c hc
    · exact (ih _ _ c hc).elim (step c) .inr

theorem isDigit_of_mem_toDigits {n : Nat} {c : Char} (h : c ∈ Nat.toDigits 10 n) : c.isDigit :=
  (isDigit_of_mem_toDigitsCore (n + 1) n [] c h).resolve_left (List.not_mem_nil c)

theorem toDigits_inj {m n : Nat} (h : Nat.toDigits 10 m = Nat.toDigits 10 n) : m = n := by
  rw [← decimalValue_toDigits m, h, decimalValue_toDigits]

theorem toDigits_ne_minus (m n : Nat) : Nat.toDigits 10 m ≠ '-' :: Nat.toDigits 10 n :=
  fun h => absurd (isDigit_of_mem_toDigits (h ▸ List.mem_cons_self _ _)) (by decide)

/-- An `ssize_t` prints as its value: the printed text determines it. -/
theorem toString_int_inj {i j : Int} (h : (toString i).data = (toString j).data) : i = j := by
  cases i with
  | ofNat m => cases j with
    | ofNat n => exact congrArg _ (toDigits_inj h)
    | negSucc n => exact absurd h (toDigits_ne_minus _ _)
  | negSucc m => cases j with
    | ofNat n => exact absurd h.symm (toDigits_ne_minus _ _)
    | negSucc n => exact congrArg _ (Nat.succ_injective (toDigits_inj (List.cons.inj h).2))

theorem space_not_mem_toString (i : Int) : ' ' ∉ (toString i).data := by
  have digits : ∀ n, ' ' ∉ Nat.toDigits 10 n :=
    fun _ h => absurd (isDigit_of_mem_toDigits h) (by decide)
  cases i with
  | ofNat m => exact digits m
  | negSucc m => exact List.not_mem_cons_of_ne_of_not_mem (by decide) (digits _)

/-- A field with no space in it ends at the first space. -/
theorem append_space_inj {xs ys t t' : List Char} (hx : ' ' ∉ xs) (hy : ' ' ∉ ys)
    (h : xs ++ ' ' :: t = ys ++ ' ' :: t') : xs = ys ∧ t = t' := by
  have hlen : xs.length = ys.length := by
    simpa [List.indexOf_append_of_not_mem hx, List.indexOf_append_of_not_mem hy] using
      congrArg (List.indexOf ' ') h
  obtain ⟨rfl, hrest⟩ := List.append_inj h hlen
  exact ⟨rfl, (List.cons.inj hrest).2⟩

/-! ## The errors -/

/-- An `Error` by its dynamic type. `Error`, `TimeoutError` and `LoopError` objects are `valid_`
    and `msg_`; the three classes that override `what()` keep their own fields, and `Error(true)`
    sets their `valid_`. `ssize_t` and `int` are `BitVec 64` and `BitVec 32`. -/
inductive Error
  | error (valid : Bool) (msg : String)
  | systemError (syscall : String) (error : BitVec 32) (remote : String)
  | shortReadError (expected actual : BitVec 64) (remote : String)
  | shortWriteError (expected actual : BitVec 64) (remote : String)
  deriving DecidableEq, Repr

/-- `Error::kSuccess`, built by `Error()`. -/
def Error.kSuccess : Error := .error false "no error"

/-- `operator bool`. -/
def Error.toBool : Error → Bool
  | .error valid _ => valid
  | _ => true

/-- The end of a formatted message: the peer, when its address prints. -/
def peerSuffix (remote : String) : String :=
  if remote = "" then "" else " (peer: " ++ remote ++ ")"

/-- `SystemError::what`; `syscall_` is a string literal. -/
def SystemError.what (strerror : BitVec 32 → String) (syscall : String) (error : BitVec 32)
    (remote : String) : String :=
  syscall ++ ": " ++ strerror error ++ peerSuffix remote

/-- The body of `ShortReadError::what` and `ShortWriteError::what`, after their first words. -/
def shortWhat (opening : String) (expected actual : BitVec 64) (remote : String) : String :=
  opening ++ toString actual.toInt ++ " of " ++ toString expected.toInt ++ " bytes)" ++
    peerSuffix remote

/-- `ShortReadError::what`. -/
def ShortReadError.what : BitVec 64 → BitVec 64 → String → String :=
  shortWhat "short read (got "

/-- `ShortWriteError::what`. -/
def ShortWriteError.what : BitVec 64 → BitVec 64 → String → String :=
  shortWhat "short write (got "

/-- `Error::what()`, dispatched on the dynamic type. -/
def Error.what (strerror : BitVec 32 → String) : Error → String
  | .error _ msg => msg
  | .systemError syscall err remote => SystemError.what strerror syscall err remote
  | .shortReadError expected actual remote => ShortReadError.what expected actual remote
  | .shortWriteError expected actual remote => ShortWriteError.what expected actual remote

/-- The errors that report a short read or a short write. -/
def Error.isShortIo : Error → Bool
  | .shortReadError _ _ _ | .shortWriteError _ _ _ => true
  | _ => false

/-! ## Reading a message back -/

theorem shortWhat_data (opening : String) (expected actual : BitVec 64) (remote : String) :
    (shortWhat opening expected actual remote).data = opening.data ++
      ((toString actual.toInt).data ++ ' ' :: 'o' :: 'f' :: ' ' ::
        ((toString expected.toInt).data ++
          ' ' :: ("bytes)".data ++ (peerSuffix remote).data))) := by
  simp [shortWhat]

theorem peerSuffix_inj {r r' : String} (h : peerSuffix r = peerSuffix r') : r = r' := by
  have hlen := congrArg String.length h
  have close : (")" : String).length = 1 := rfl
  have empty : ("" : String).length = 0 := rfl
  unfold peerSuffix at h hlen
  split_ifs at h hlen with h1 h2 h2
  · rw [h1, h2]
  · simp only [String.length_append] at hlen; omega
  · simp only [String.length_append] at hlen; omega
  · simpa [String.ext_iff] using h

/-- After the same first words, the counts and the peer are read back. -/
theorem shortWhat_inj {opening remote remote' : String}
    {expected actual expected' actual' : BitVec 64}
    (h : shortWhat opening expected actual remote = shortWhat opening expected' actual' remote') :
    expected = expected' ∧ actual = actual' ∧ remote = remote' := by
  have h := congrArg String.data h
  rw [shortWhat_data, shortWhat_data, List.append_cancel_left_eq] at h
  obtain ⟨hactual, h⟩ :=
    append_space_inj (space_not_mem_toString _) (space_not_mem_toString _) h
  simp only [List.cons.injEq, true_and] at h
  obtain ⟨hexpected, h⟩ :=
    append_space_inj (space_not_mem_toString _) (space_not_mem_toString _) h
  rw [List.append_cancel_left_eq] at h
  exact ⟨BitVec.toInt_inj.1 (toString_int_inj hexpected), BitVec.toInt_inj.1
    (toString_int_inj hactual), peerSuffix_inj (String.ext h)⟩

theorem read_ne_write (expected actual expected' actual' : BitVec 64) (remote remote' : String) :
    ShortReadError.what expected actual remote ≠
      ShortWriteError.what expected' actual' remote' := by
  intro h
  simpa [ShortReadError.what, ShortWriteError.what, shortWhat] using
    congrArg (fun s : String => s.data.take 7) h

/-- **Short I/O messages are unambiguous.** Two short read or short write errors print the
    same `what()` only when they are the same error: the direction, both counts and the peer can
    be read back from the message. -/
theorem shortIo_what_inj (strerror : BitVec 32 → String) {x y : Error} (hx : x.isShortIo)
    (hy : y.isShortIo) : x.what strerror = y.what strerror ↔ x = y := by
  refine ⟨fun h => ?_, congrArg _⟩
  cases x <;> cases y <;> simp [Error.isShortIo] at hx hy <;> simp only [Error.what] at h
  case shortReadError.shortReadError =>
    obtain ⟨rfl, rfl, rfl⟩ := shortWhat_inj h; rfl
  case shortWriteError.shortWriteError =>
    obtain ⟨rfl, rfl, rfl⟩ := shortWhat_inj h; rfl
  case shortReadError.shortWriteError => exact absurd h (read_ne_write _ _ _ _ _ _)
  case shortWriteError.shortReadError => exact absurd h.symm (read_ne_write _ _ _ _ _ _)

theorem shortIo_what_inj_at :
    (Error.shortReadError 4 2 "").isShortIo ∧ (Error.shortWriteError 4 2 "").isShortIo ∧
      ((Error.shortReadError 4 2 "").what (fun _ => "") =
          (Error.shortWriteError 4 2 "").what (fun _ => "") ↔
        Error.shortReadError 4 2 "" = Error.shortWriteError 4 2 "") :=
  ⟨rfl, rfl, @shortIo_what_inj (fun _ => "") (.shortReadError 4 2 "") (.shortWriteError 4 2 "")
    rfl rfl⟩

end Gloo.Transport.Tcp
