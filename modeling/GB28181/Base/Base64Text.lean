import GB28181.Base.CString

/-!
# Base64 texts

Three bytes are a number of 24 bits and are written as four digits to the base 64.  A last group
of one or two bytes is filled with zero bits and its missing digits with `=`.

* `base64Text_length` — four characters for every three bytes begun;
* `mem_base64Text` — all of them of the alphabet or `=`;
* `cStr_base64Text` — a terminator behind the text ends it.
-/

set_option autoImplicit false

namespace GB28181.Base

def alphabet : CStr := str "ABCDEFGHIJKLMNOPQRSTUVWXYZabcdefghijklmnopqrstuvwxyz0123456789+/"

def digit64 (n : Nat) : UInt8 := alphabet.getD (n % 64) 0x3d

/-- The number that a group of three bytes is. -/
def groupValue (c0 c1 c2 : UInt8) : Nat := 65536 * c0.toNat + 256 * c1.toNat + c2.toNat

def base64Text : CStr → CStr
  | [] => []
  | [c0] => [digit64 (groupValue c0 0 0 / 262144), digit64 (groupValue c0 0 0 / 4096), 0x3d, 0x3d]
  | [c0, c1] =>
    [digit64 (groupValue c0 c1 0 / 262144), digit64 (groupValue c0 c1 0 / 4096),
      digit64 (groupValue c0 c1 0 / 64), 0x3d]
  | c0 :: c1 :: c2 :: src =>
    digit64 (groupValue c0 c1 c2 / 262144) :: digit64 (groupValue c0 c1 c2 / 4096) ::
      digit64 (groupValue c0 c1 c2 / 64) :: digit64 (groupValue c0 c1 c2) :: base64Text src

example : base64Text (str "a1:b") = str "YTE6Yg==" := by decide

theorem base64Text_length : ∀ src : CStr, (base64Text src).length = 4 * ((src.length + 2) / 3)
  | [] => rfl
  | [_] => by simp [base64Text]
  | [_, _] => by simp [base64Text]
  | _ :: _ :: _ :: src => by
    simp only [base64Text, List.length_cons, base64Text_length src]
    omega

theorem digit64_mem (n : Nat) : digit64 n ∈ alphabet := by
  have h : ∀ k : Fin 64, alphabet.getD k 0x3d ∈ alphabet := by decide +kernel
  exact h ⟨n % 64, Nat.mod_lt n (by decide)⟩

theorem mem_base64Text : ∀ src : CStr, ∀ ch ∈ base64Text src, ch ∈ alphabet ∨ ch = 0x3d
  | [] => by simp [base64Text]
  | [_] => by simp [base64Text, digit64_mem]
  | [_, _] => by simp [base64Text, digit64_mem]
  | _ :: _ :: _ :: src => by
    have ih := mem_base64Text src
    simpa [base64Text, digit64_mem] using ih

theorem base64Text_ne_zero {src : CStr} {ch : UInt8} (h : ch ∈ base64Text src) : ch ≠ 0 := by
  have hmem : ∀ ch ∈ alphabet, ch ≠ 0 := by decide +kernel
  rcases mem_base64Text src ch h with h | rfl
  · exact hmem ch h
  · decide

theorem cStr_base64Text (src rest : CStr) : cStr (base64Text src ++ 0 :: rest) = base64Text src :=
  cStr_text (fun h => base64Text_ne_zero h rfl) rest

end GB28181.Base
