import CutAndChoose.Binary64.Basic

/-!
# CutAndChoose.Binary64.LogTable

Constants for the binary logarithm, as binary64 words.

The interval `[11/16, 11/8)` is cut into 64 pieces; the words of the numbers in a piece share their
leading digits. Each piece has a node, a number inside it, given by its rounded reciprocal and its
rounded logarithm.

For small `r` the logarithm of `1 + r` is `r / ln 2` and a polynomial that starts at the square. On
the pieces it ends with the seventh power; numbers close to `1`, where few digits are left, have a
polynomial of their own that ends with the eleventh.
-/

namespace CutAndChoose

/-- A number by its reciprocal and its binary logarithm. -/
structure LogNode where
  reciprocalWord : UInt64
  logWord : UInt64
  deriving DecidableEq

namespace LogNode

def reciprocal (n : LogNode) : Binary64 := .ofBits n.reciprocalWord

def log (n : LogNode) : Binary64 := .ofBits n.logWord

end LogNode

structure Cubic where
  c0 : Binary64
  c1 : Binary64
  c2 : Binary64
  c3 : Binary64

def Cubic.ofWords (w0 w1 w2 w3 : UInt64) : Cubic :=
  ⟨.ofBits w0, .ofBits w1, .ofBits w2, .ofBits w3⟩

namespace LogTable

/-- Leading digits of `1 / ln 2`. -/
def perLn2 : Binary64 := .ofBits 0x3ff7154765200000

/-- What is missing from the leading digits of `1 / ln 2`. -/
def perLn2Rest : Binary64 := .ofBits 0x3de705fc2eefa200

/-- Where the first piece starts: the word of `11/16`. -/
def start : Nat := 0x3fe6000000000000

/-- The word from which on a number counts as close to `1`. -/
def nearFrom : Nat := 0x3feea4af00000000

/-- The word below which a number counts as close to `1`. -/
def nearBelow : Nat := 0x3ff0b55900000000

/-- On a piece: the coefficients of `r ^ 2` to `r ^ 5`. -/
def pieceCubic : Cubic :=
  .ofWords 0xbfe71547652b8339 0x3fdec709dc3a04be
    0xbfd7154764702ffb 0x3fd2776c50034c48

/-- On a piece: the coefficients of `r ^ 6` and `r ^ 7`. -/
def pieceSixth : Binary64 := .ofBits 0xbfcec7b328ea92bc

def pieceSeventh : Binary64 := .ofBits 0x3fca6225e117f92e

/-- Close to `1`: the coefficients of `r ^ 2` and `r ^ 3`. -/
def nearSecond : Binary64 := .ofBits 0xbfe71547652b82fe

def nearThird : Binary64 := .ofBits 0x3fdec709dc3a03f7

/-- Close to `1`: the coefficients of `r ^ 4` to `r ^ 7`. -/
def nearMiddle : Cubic :=
  .ofWords 0xbfd71547652b7c3f 0x3fd2776c50f05be4
    0xbfcec709dd768fe5 0x3fca61761ec4e736

/-- Close to `1`: the coefficients of `r ^ 8` to `r ^ 11`. -/
def nearTail : Cubic :=
  .ofWords 0xbfc7153fbc64a79b 0x3fc484d154f01b4a
    0xbfc289e4a72c383c 0x3fc0b32f285aee66

def nodes : Vector LogNode 64 := #v[
  ⟨0x3ff724286bb1acf8, 0xbfe1095feecdb000⟩, ⟨0x3ff6e1f766d2cca1, 0xbfe08494bd76d000⟩,
  ⟨0x3ff6a13d0e30d48a, 0xbfe00143aee8f800⟩, ⟨0x3ff661ec32d06c85, 0xbfdefec5360b4000⟩,
  ⟨0x3ff623fa951198f8, 0xbfddfdd91ab7e000⟩, ⟨0x3ff5e75ba4cf026c, 0xbfdcffae0cc79000⟩,
  ⟨0x3ff5ac055a214fb8, 0xbfdc043811fda000⟩, ⟨0x3ff571ed0f166e1e, 0xbfdb0b67323ae000⟩,
  ⟨0x3ff53909590bf835, 0xbfda152f5a2db000⟩, ⟨0x3ff5014fed61addd, 0xbfd9217f5af86000⟩,
  ⟨0x3ff4cab88e487bd0, 0xbfd8304db0719000⟩, ⟨0x3ff49539b4334fee, 0xbfd74189f9a9e000⟩,
  ⟨0x3ff460cbdfafd569, 0xbfd6552bb5199000⟩, ⟨0x3ff42d664ee4b953, 0xbfd56b23a29b1000⟩,
  ⟨0x3ff3fb01111dd8a6, 0xbfd483650f5fa000⟩, ⟨0x3ff3c995b70c5836, 0xbfd39de937f6a000⟩,
  ⟨0x3ff3991c4ab6fd4a, 0xbfd2baa1538d6000⟩, ⟨0x3ff3698e0ce099b5, 0xbfd1d98340ca4000⟩,
  ⟨0x3ff33ae48213e7b2, 0xbfd0fa853a40e000⟩, ⟨0x3ff30d191985bdb1, 0xbfd01d9c32e73000⟩,
  ⟨0x3ff2e025cab271d7, 0xbfce857da2fa6000⟩, ⟨0x3ff2b404cf13cd82, 0xbfccd3c8633d8000⟩,
  ⟨0x3ff288b02c7ccb50, 0xbfcb26034c14a000⟩, ⟨0x3ff25e2263944de5, 0xbfc97c1c2f4fe000⟩,
  ⟨0x3ff234563d8615b1, 0xbfc7d6023f800000⟩, ⟨0x3ff20b46e33eaf38, 0xbfc633a71a05e000⟩,
  ⟨0x3ff1e2eefdcda3dd, 0xbfc494f5e9570000⟩, ⟨0x3ff1bb4a580b3930, 0xbfc2f9e424e0a000⟩,
  ⟨0x3ff19453847f2200, 0xbfc162595afdc000⟩, ⟨0x3ff16e06c0d5d73c, 0xbfbf9c9a75bd8000⟩,
  ⟨0x3ff1485f47b7e4c2, 0xbfbc7b575bf9c000⟩, ⟨0x3ff12358ad0085d1, 0xbfb960c60ff48000⟩,
  ⟨0x3ff0fef00f532227, 0xbfb64ce247b60000⟩, ⟨0x3ff0db2077d03a8f, 0xbfb33f78b2014000⟩,
  ⟨0x3ff0b7e6d65980d9, 0xbfb0387d1a42c000⟩, ⟨0x3ff0953efe7b408d, 0xbfaa6f9208b50000⟩,
  ⟨0x3ff07325cac53b83, 0xbfa47a954f770000⟩, ⟨0x3ff05197e40d1b5c, 0xbf9d23a8c50c0000⟩,
  ⟨0x3ff03091c1208ea2, 0xbf916a2629780000⟩, ⟨0x3ff0101025b37e21, 0xbf7720f8d8e80000⟩,
  ⟨0x3fefc07ef9caa76b, 0x3f86fe53b1500000⟩, ⟨0x3fef4465d3f6f184, 0x3fa11ccce10f8000⟩,
  ⟨0x3feecc079f84107f, 0x3fac4dfc8c8b8000⟩, ⟨0x3fee573a99975ae8, 0x3fb3aa321e574000⟩,
  ⟨0x3fede5d6f0bd3de6, 0x3fb918a0d08b8000⟩, ⟨0x3fed77b681ff38b3, 0x3fbe72e9da044000⟩,
  ⟨0x3fed0cb5724de943, 0x3fc1dcd2507f6000⟩, ⟨0x3feca4b2dc0e7563, 0x3fc476ab03dea000⟩,
  ⟨0x3fec3f8ee8d6cb51, 0x3fc7074377e22000⟩, ⟨0x3febdd2b4f020c4c, 0x3fc98ede8ba94000⟩,
  ⟨0x3feb7d6c006015ca, 0x3fcc0db86ad2e000⟩, ⟨0x3feb20366e2e338f, 0x3fce840aafcee000⟩,
  ⟨0x3feac57026295039, 0x3fd0790ab4678000⟩, ⟨0x3fea6d01bc2731dd, 0x3fd1ac056801c000⟩,
  ⟨0x3fea16d3bc3ff18b, 0x3fd2db11d4fee000⟩, ⟨0x3fe9c2d14967fead, 0x3fd406464ec58000⟩,
  ⟨0x3fe970e4f47c9902, 0x3fd52dbe093af000⟩, ⟨0x3fe920fb3982bcf2, 0x3fd651902050d000⟩,
  ⟨0x3fe8d30187f759f1, 0x3fd771d2cdeaf000⟩, ⟨0x3fe886e5ebb9f66d, 0x3fd88e9c857d9000⟩,
  ⟨0x3fe83c97b658b994, 0x3fd9a80155e16000⟩, ⟨0x3fe7f405ffc61022, 0x3fdabe186ed3d000⟩,
  ⟨0x3fe7ad22181415ca, 0x3fdbd0f2aea0e000⟩, ⟨0x3fe767dcf99eff8c, 0x3fdce0a43dbf4000⟩]

end LogTable

end CutAndChoose
