import CotServer.Model.Types
import Mathlib.Data.Rat.Floor

/-!
# Signed recharge requests

`encodeRechargeV2ToTrInfoData` (`packages/core`), `VerifyHelper.verifySignature` and the checks that
`RechargeController.rechargeV2` makes before it calls the service. The signature library and the
number formatting of the runtime are parameters.
-/

namespace CotServer

/-- `JSON.stringify` of the chain name, the address and the timestamp. -/
def encodeRechargeV2ToTrInfoData (numberToString : Rat → JsString)
    (argv : RechargeV2ToTrInfoData) : JsString :=
  js "\x7b\"chainName\":" ++ JsString.quote argv.chainName ++
  (js ",\"address\":" ++ JsString.quote argv.address ++
  (js ",\"timestamp\":" ++ numberToString argv.timestamp ++ js "\x7d"))

/-! ## Buffers -/

namespace Buffer

/-- The UTF-8 bytes of a code point below `0x110000`. -/
def utf8Point (n : Nat) : List UInt8 :=
  if n < 0x80 then [UInt8.ofNat n]
  else if n < 0x800 then [UInt8.ofNat (0xC0 + n / 64), UInt8.ofNat (0x80 + n % 64)]
  else if n < 0x10000 then
    [UInt8.ofNat (0xE0 + n / 4096), UInt8.ofNat (0x80 + n / 64 % 64), UInt8.ofNat (0x80 + n % 64)]
  else
    [UInt8.ofNat (0xF0 + n / 262144), UInt8.ofNat (0x80 + n / 4096 % 64),
      UInt8.ofNat (0x80 + n / 64 % 64), UInt8.ofNat (0x80 + n % 64)]

/-- The bytes of a code unit outside a pair; a lone surrogate becomes the replacement character. -/
def utf8Unit (c : UInt16) : List UInt8 :=
  if JsString.isHighSurrogate c || JsString.isLowSurrogate c then utf8Point 0xFFFD
  else utf8Point c.toNat

/-- `Buffer.from(data)`. -/
def ofString : JsString → List UInt8
  | [] => []
  | [c] => utf8Unit c
  | c :: d :: s =>
    if JsString.isHighSurrogate c && JsString.isLowSurrogate d then
      utf8Point (0x10000 + (c.toNat - 0xD800) * 0x400 + (d.toNat - 0xDC00)) ++ ofString s
    else utf8Unit c ++ ofString (d :: s)

def hexValue? (c : UInt16) : Option Nat :=
  if 0x30 ≤ c ∧ c ≤ 0x39 then some (c.toNat - 0x30)
  else if 0x61 ≤ c ∧ c ≤ 0x66 then some (c.toNat - 87)
  else if 0x41 ≤ c ∧ c ≤ 0x46 then some (c.toNat - 55)
  else none

/-- `Buffer.from(data, "hex")`, which stops at the first pair that is not hexadecimal. -/
def ofHex : JsString → List UInt8
  | h :: l :: s =>
    match hexValue? h, hexValue? l with
    | some a, some b => UInt8.ofNat (a * 16 + b) :: ofHex s
    | _, _ => []
  | _ => []

end Buffer

/-! ## Verification -/

structure SignatureInfo where
  signature : JsString
  publicKey : JsString
  timestamp : Rat

/-- The SDK functions behind the checks; each may throw. -/
structure BfmetaSignUtil where
  isBCFAddress : JsString → Except Err Bool
  detachedVeriy : (data signature publicKey : List UInt8) → Except Err Bool
  getAddressFromPublicKeyString : JsString → Except Err JsString

/-- Five minutes. -/
def VERIFY_EXPIRE_TIME : Rat := 1000 * 60 * 5

/-- `VerifyHelper.verifySignature` at the server time `now`. -/
def verifySignature (util : BfmetaSignUtil) (now : Int) (signatureInfo : SignatureInfo)
    (data address : JsString) : Except Err Bool := do
  let resp ← util.detachedVeriy (Buffer.ofString data) (Buffer.ofHex signatureInfo.signature)
    (Buffer.ofHex signatureInfo.publicKey)
  let pkAddress ← util.getAddressFromPublicKeyString signatureInfo.publicKey
  if pkAddress ≠ address then
    throw (.error (js "op address fail"))
  if resp = false then
    throw (.error (js "data verify fail"))
  if ¬ (now - signatureInfo.timestamp < VERIFY_EXPIRE_TIME) then
    throw (.error (js "req timestamp expired"))
  return true

/-- The checks of `RechargeController.rechargeV2`; the service is called when they pass. -/
def rechargeV2Checks (util : BfmetaSignUtil) (numberToString : Rat → JsString) (now : Int)
    (message : RechargeV2ToTrInfoData) (signatureInfo : SignatureInfo) : Except Err Bool := do
  let address := message.address
  if !(← util.isBCFAddress address) then
    throw (.error (js "address:" ++ address ++ js " is not BCF address"))
  verifySignature util now signatureInfo (encodeRechargeV2ToTrInfoData numberToString message)
    address

end CotServer
