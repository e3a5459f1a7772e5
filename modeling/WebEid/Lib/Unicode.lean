import Mathlib.Data.Nat.Notation
import Mathlib.Tactic.Common

/-!
# Letter case, as Go's `unicode` package has it

`unicode.ToUpper` and `unicode.ToLower` are the simple case mappings of
Unicode 17, one rune to one rune. A range of runes moves together, all of them
or every second one: `⟨lo, hi, step, image⟩` sends `lo`, `lo + step`, … up to
`hi` to `image`, `image + step`, … and leaves the runes in between alone. ASCII
is looked up on its own, as it is there.

Simple folding identifies the runes that agree after both mappings. Its two
exceptions are the Turkish i with a dot and without one: each has a partner
in one direction and folds with nothing.

The mappings enter ASCII from outside at four places in all: the dotless i and
the long s have an upper case there, the dotted I and the Kelvin sign a lower
case. Every result about names written in ASCII rests on that.
-/

namespace WebEid.Lib.Unicode

/-- The runes `lo`, `lo + step`, … up to `hi`, and the rune the first of them
is mapped to. -/
structure CaseRange where
  lo : Nat
  hi : Nat
  step : Nat
  image : Nat

def CaseRange.covers (r : CaseRange) (n : Nat) : Bool :=
  r.lo ≤ n && n ≤ r.hi && (n - r.lo) % r.step == 0

theorem CaseRange.covers_iff (r : CaseRange) {n : Nat} :
    r.covers n = true ↔ r.lo ≤ n ∧ n ≤ r.hi ∧ (n - r.lo) % r.step = 0 := by
  simp only [covers, Bool.and_eq_true, decide_eq_true_eq, beq_iff_eq, and_assoc]

def upperRanges : List CaseRange :=
  [⟨0xb5, 0xb5, 1, 0x39c⟩, ⟨0xe0, 0xf6, 1, 0xc0⟩, ⟨0xf8, 0xfe, 1, 0xd8⟩, ⟨0xff, 0xff, 1, 0x178⟩,
   ⟨0x101, 0x12f, 2, 0x100⟩, ⟨0x131, 0x131, 1, 0x49⟩, ⟨0x133, 0x137, 2, 0x132⟩,
   ⟨0x13a, 0x148, 2, 0x139⟩, ⟨0x14b, 0x177, 2, 0x14a⟩, ⟨0x17a, 0x17e, 2, 0x179⟩,
   ⟨0x17f, 0x17f, 1, 0x53⟩, ⟨0x180, 0x180, 1, 0x243⟩, ⟨0x183, 0x185, 2, 0x182⟩,
   ⟨0x188, 0x188, 1, 0x187⟩, ⟨0x18c, 0x18c, 1, 0x18b⟩, ⟨0x192, 0x192, 1, 0x191⟩,
   ⟨0x195, 0x195, 1, 0x1f6⟩, ⟨0x199, 0x199, 1, 0x198⟩, ⟨0x19a, 0x19a, 1, 0x23d⟩,
   ⟨0x19b, 0x19b, 1, 0xa7dc⟩, ⟨0x19e, 0x19e, 1, 0x220⟩, ⟨0x1a1, 0x1a5, 2, 0x1a0⟩,
   ⟨0x1a8, 0x1a8, 1, 0x1a7⟩, ⟨0x1ad, 0x1ad, 1, 0x1ac⟩, ⟨0x1b0, 0x1b0, 1, 0x1af⟩,
   ⟨0x1b4, 0x1b6, 2, 0x1b3⟩, ⟨0x1b9, 0x1b9, 1, 0x1b8⟩, ⟨0x1bd, 0x1bd, 1, 0x1bc⟩,
   ⟨0x1bf, 0x1bf, 1, 0x1f7⟩, ⟨0x1c5, 0x1c5, 1, 0x1c4⟩, ⟨0x1c6, 0x1c6, 1, 0x1c4⟩,
   ⟨0x1c8, 0x1c8, 1, 0x1c7⟩, ⟨0x1c9, 0x1c9, 1, 0x1c7⟩, ⟨0x1cb, 0x1cb, 1, 0x1ca⟩,
   ⟨0x1cc, 0x1cc, 1, 0x1ca⟩, ⟨0x1ce, 0x1dc, 2, 0x1cd⟩, ⟨0x1dd, 0x1dd, 1, 0x18e⟩,
   ⟨0x1df, 0x1ef, 2, 0x1de⟩, ⟨0x1f2, 0x1f2, 1, 0x1f1⟩, ⟨0x1f3, 0x1f3, 1, 0x1f1⟩,
   ⟨0x1f5, 0x1f5, 1, 0x1f4⟩, ⟨0x1f9, 0x21f, 2, 0x1f8⟩, ⟨0x223, 0x233, 2, 0x222⟩,
   ⟨0x23c, 0x23c, 1, 0x23b⟩, ⟨0x23f, 0x240, 1, 0x2c7e⟩, ⟨0x242, 0x242, 1, 0x241⟩,
   ⟨0x247, 0x24f, 2, 0x246⟩, ⟨0x250, 0x250, 1, 0x2c6f⟩, ⟨0x251, 0x251, 1, 0x2c6d⟩,
   ⟨0x252, 0x252, 1, 0x2c70⟩, ⟨0x253, 0x253, 1, 0x181⟩, ⟨0x254, 0x254, 1, 0x186⟩,
   ⟨0x256, 0x257, 1, 0x189⟩, ⟨0x259, 0x259, 1, 0x18f⟩, ⟨0x25b, 0x25b, 1, 0x190⟩,
   ⟨0x25c, 0x25c, 1, 0xa7ab⟩, ⟨0x260, 0x260, 1, 0x193⟩, ⟨0x261, 0x261, 1, 0xa7ac⟩,
   ⟨0x263, 0x263, 1, 0x194⟩, ⟨0x264, 0x264, 1, 0xa7cb⟩, ⟨0x265, 0x265, 1, 0xa78d⟩,
   ⟨0x266, 0x266, 1, 0xa7aa⟩, ⟨0x268, 0x268, 1, 0x197⟩, ⟨0x269, 0x269, 1, 0x196⟩,
   ⟨0x26a, 0x26a, 1, 0xa7ae⟩, ⟨0x26b, 0x26b, 1, 0x2c62⟩, ⟨0x26c, 0x26c, 1, 0xa7ad⟩,
   ⟨0x26f, 0x26f, 1, 0x19c⟩, ⟨0x271, 0x271, 1, 0x2c6e⟩, ⟨0x272, 0x272, 1, 0x19d⟩,
   ⟨0x275, 0x275, 1, 0x19f⟩, ⟨0x27d, 0x27d, 1, 0x2c64⟩, ⟨0x280, 0x280, 1, 0x1a6⟩,
   ⟨0x282, 0x282, 1, 0xa7c5⟩, ⟨0x283, 0x283, 1, 0x1a9⟩, ⟨0x287, 0x287, 1, 0xa7b1⟩,
   ⟨0x288, 0x288, 1, 0x1ae⟩, ⟨0x289, 0x289, 1, 0x244⟩, ⟨0x28a, 0x28b, 1, 0x1b1⟩,
   ⟨0x28c, 0x28c, 1, 0x245⟩, ⟨0x292, 0x292, 1, 0x1b7⟩, ⟨0x29d, 0x29d, 1, 0xa7b2⟩,
   ⟨0x29e, 0x29e, 1, 0xa7b0⟩, ⟨0x345, 0x345, 1, 0x399⟩, ⟨0x371, 0x373, 2, 0x370⟩,
   ⟨0x377, 0x377, 1, 0x376⟩, ⟨0x37b, 0x37d, 1, 0x3fd⟩, ⟨0x3ac, 0x3ac, 1, 0x386⟩,
   ⟨0x3ad, 0x3af, 1, 0x388⟩, ⟨0x3b1, 0x3c1, 1, 0x391⟩, ⟨0x3c2, 0x3c2, 1, 0x3a3⟩,
   ⟨0x3c3, 0x3cb, 1, 0x3a3⟩, ⟨0x3cc, 0x3cc, 1, 0x38c⟩, ⟨0x3cd, 0x3ce, 1, 0x38e⟩,
   ⟨0x3d0, 0x3d0, 1, 0x392⟩, ⟨0x3d1, 0x3d1, 1, 0x398⟩, ⟨0x3d5, 0x3d5, 1, 0x3a6⟩,
   ⟨0x3d6, 0x3d6, 1, 0x3a0⟩, ⟨0x3d7, 0x3d7, 1, 0x3cf⟩, ⟨0x3d9, 0x3ef, 2, 0x3d8⟩,
   ⟨0x3f0, 0x3f0, 1, 0x39a⟩, ⟨0x3f1, 0x3f1, 1, 0x3a1⟩, ⟨0x3f2, 0x3f2, 1, 0x3f9⟩,
   ⟨0x3f3, 0x3f3, 1, 0x37f⟩, ⟨0x3f5, 0x3f5, 1, 0x395⟩, ⟨0x3f8, 0x3f8, 1, 0x3f7⟩,
   ⟨0x3fb, 0x3fb, 1, 0x3fa⟩, ⟨0x430, 0x44f, 1, 0x410⟩, ⟨0x450, 0x45f, 1, 0x400⟩,
   ⟨0x461, 0x481, 2, 0x460⟩, ⟨0x48b, 0x4bf, 2, 0x48a⟩, ⟨0x4c2, 0x4ce, 2, 0x4c1⟩,
   ⟨0x4cf, 0x4cf, 1, 0x4c0⟩, ⟨0x4d1, 0x52f, 2, 0x4d0⟩, ⟨0x561, 0x586, 1, 0x531⟩,
   ⟨0x10d0, 0x10fa, 1, 0x1c90⟩, ⟨0x10fd, 0x10ff, 1, 0x1cbd⟩, ⟨0x13f8, 0x13fd, 1, 0x13f0⟩,
   ⟨0x1c80, 0x1c80, 1, 0x412⟩, ⟨0x1c81, 0x1c81, 1, 0x414⟩, ⟨0x1c82, 0x1c82, 1, 0x41e⟩,
   ⟨0x1c83, 0x1c84, 1, 0x421⟩, ⟨0x1c85, 0x1c85, 1, 0x422⟩, ⟨0x1c86, 0x1c86, 1, 0x42a⟩,
   ⟨0x1c87, 0x1c87, 1, 0x462⟩, ⟨0x1c88, 0x1c88, 1, 0xa64a⟩, ⟨0x1c8a, 0x1c8a, 1, 0x1c89⟩,
   ⟨0x1d79, 0x1d79, 1, 0xa77d⟩, ⟨0x1d7d, 0x1d7d, 1, 0x2c63⟩, ⟨0x1d8e, 0x1d8e, 1, 0xa7c6⟩,
   ⟨0x1e01, 0x1e95, 2, 0x1e00⟩, ⟨0x1e9b, 0x1e9b, 1, 0x1e60⟩, ⟨0x1ea1, 0x1eff, 2, 0x1ea0⟩,
   ⟨0x1f00, 0x1f07, 1, 0x1f08⟩, ⟨0x1f10, 0x1f15, 1, 0x1f18⟩, ⟨0x1f20, 0x1f27, 1, 0x1f28⟩,
   ⟨0x1f30, 0x1f37, 1, 0x1f38⟩, ⟨0x1f40, 0x1f45, 1, 0x1f48⟩, ⟨0x1f51, 0x1f57, 2, 0x1f59⟩,
   ⟨0x1f60, 0x1f67, 1, 0x1f68⟩, ⟨0x1f70, 0x1f71, 1, 0x1fba⟩, ⟨0x1f72, 0x1f75, 1, 0x1fc8⟩,
   ⟨0x1f76, 0x1f77, 1, 0x1fda⟩, ⟨0x1f78, 0x1f79, 1, 0x1ff8⟩, ⟨0x1f7a, 0x1f7b, 1, 0x1fea⟩,
   ⟨0x1f7c, 0x1f7d, 1, 0x1ffa⟩, ⟨0x1f80, 0x1f87, 1, 0x1f88⟩, ⟨0x1f90, 0x1f97, 1, 0x1f98⟩,
   ⟨0x1fa0, 0x1fa7, 1, 0x1fa8⟩, ⟨0x1fb0, 0x1fb1, 1, 0x1fb8⟩, ⟨0x1fb3, 0x1fb3, 1, 0x1fbc⟩,
   ⟨0x1fbe, 0x1fbe, 1, 0x399⟩, ⟨0x1fc3, 0x1fc3, 1, 0x1fcc⟩, ⟨0x1fd0, 0x1fd1, 1, 0x1fd8⟩,
   ⟨0x1fe0, 0x1fe1, 1, 0x1fe8⟩, ⟨0x1fe5, 0x1fe5, 1, 0x1fec⟩, ⟨0x1ff3, 0x1ff3, 1, 0x1ffc⟩,
   ⟨0x214e, 0x214e, 1, 0x2132⟩, ⟨0x2170, 0x217f, 1, 0x2160⟩, ⟨0x2184, 0x2184, 1, 0x2183⟩,
   ⟨0x24d0, 0x24e9, 1, 0x24b6⟩, ⟨0x2c30, 0x2c5f, 1, 0x2c00⟩, ⟨0x2c61, 0x2c61, 1, 0x2c60⟩,
   ⟨0x2c65, 0x2c65, 1, 0x23a⟩, ⟨0x2c66, 0x2c66, 1, 0x23e⟩, ⟨0x2c68, 0x2c6c, 2, 0x2c67⟩,
   ⟨0x2c73, 0x2c73, 1, 0x2c72⟩, ⟨0x2c76, 0x2c76, 1, 0x2c75⟩, ⟨0x2c81, 0x2ce3, 2, 0x2c80⟩,
   ⟨0x2cec, 0x2cee, 2, 0x2ceb⟩, ⟨0x2cf3, 0x2cf3, 1, 0x2cf2⟩, ⟨0x2d00, 0x2d25, 1, 0x10a0⟩,
   ⟨0x2d27, 0x2d27, 1, 0x10c7⟩, ⟨0x2d2d, 0x2d2d, 1, 0x10cd⟩, ⟨0xa641, 0xa66d, 2, 0xa640⟩,
   ⟨0xa681, 0xa69b, 2, 0xa680⟩, ⟨0xa723, 0xa72f, 2, 0xa722⟩, ⟨0xa733, 0xa76f, 2, 0xa732⟩,
   ⟨0xa77a, 0xa77c, 2, 0xa779⟩, ⟨0xa77f, 0xa787, 2, 0xa77e⟩, ⟨0xa78c, 0xa78c, 1, 0xa78b⟩,
   ⟨0xa791, 0xa793, 2, 0xa790⟩, ⟨0xa794, 0xa794, 1, 0xa7c4⟩, ⟨0xa797, 0xa7a9, 2, 0xa796⟩,
   ⟨0xa7b5, 0xa7c3, 2, 0xa7b4⟩, ⟨0xa7c8, 0xa7ca, 2, 0xa7c7⟩, ⟨0xa7cd, 0xa7db, 2, 0xa7cc⟩,
   ⟨0xa7f6, 0xa7f6, 1, 0xa7f5⟩, ⟨0xab53, 0xab53, 1, 0xa7b3⟩, ⟨0xab70, 0xabbf, 1, 0x13a0⟩,
   ⟨0xff41, 0xff5a, 1, 0xff21⟩, ⟨0x10428, 0x1044f, 1, 0x10400⟩, ⟨0x104d8, 0x104fb, 1, 0x104b0⟩,
   ⟨0x10597, 0x105a1, 1, 0x10570⟩, ⟨0x105a3, 0x105b1, 1, 0x1057c⟩, ⟨0x105b3, 0x105b9, 1, 0x1058c⟩,
   ⟨0x105bb, 0x105bc, 1, 0x10594⟩, ⟨0x10cc0, 0x10cf2, 1, 0x10c80⟩, ⟨0x10d70, 0x10d85, 1, 0x10d50⟩,
   ⟨0x118c0, 0x118df, 1, 0x118a0⟩, ⟨0x16e60, 0x16e7f, 1, 0x16e40⟩, ⟨0x16ebb, 0x16ed3, 1, 0x16ea0⟩,
   ⟨0x1e922, 0x1e943, 1, 0x1e900⟩]

def lowerRanges : List CaseRange :=
  [⟨0xc0, 0xd6, 1, 0xe0⟩, ⟨0xd8, 0xde, 1, 0xf8⟩, ⟨0x100, 0x12e, 2, 0x101⟩,
   ⟨0x130, 0x130, 1, 0x69⟩, ⟨0x132, 0x136, 2, 0x133⟩, ⟨0x139, 0x147, 2, 0x13a⟩,
   ⟨0x14a, 0x176, 2, 0x14b⟩, ⟨0x178, 0x178, 1, 0xff⟩, ⟨0x179, 0x17d, 2, 0x17a⟩,
   ⟨0x181, 0x181, 1, 0x253⟩, ⟨0x182, 0x184, 2, 0x183⟩, ⟨0x186, 0x186, 1, 0x254⟩,
   ⟨0x187, 0x187, 1, 0x188⟩, ⟨0x189, 0x18a, 1, 0x256⟩, ⟨0x18b, 0x18b, 1, 0x18c⟩,
   ⟨0x18e, 0x18e, 1, 0x1dd⟩, ⟨0x18f, 0x18f, 1, 0x259⟩, ⟨0x190, 0x190, 1, 0x25b⟩,
   ⟨0x191, 0x191, 1, 0x192⟩, ⟨0x193, 0x193, 1, 0x260⟩, ⟨0x194, 0x194, 1, 0x263⟩,
   ⟨0x196, 0x196, 1, 0x269⟩, ⟨0x197, 0x197, 1, 0x268⟩, ⟨0x198, 0x198, 1, 0x199⟩,
   ⟨0x19c, 0x19c, 1, 0x26f⟩, ⟨0x19d, 0x19d, 1, 0x272⟩, ⟨0x19f, 0x19f, 1, 0x275⟩,
   ⟨0x1a0, 0x1a4, 2, 0x1a1⟩, ⟨0x1a6, 0x1a6, 1, 0x280⟩, ⟨0x1a7, 0x1a7, 1, 0x1a8⟩,
   ⟨0x1a9, 0x1a9, 1, 0x283⟩, ⟨0x1ac, 0x1ac, 1, 0x1ad⟩, ⟨0x1ae, 0x1ae, 1, 0x288⟩,
   ⟨0x1af, 0x1af, 1, 0x1b0⟩, ⟨0x1b1, 0x1b2, 1, 0x28a⟩, ⟨0x1b3, 0x1b5, 2, 0x1b4⟩,
   ⟨0x1b7, 0x1b7, 1, 0x292⟩, ⟨0x1b8, 0x1b8, 1, 0x1b9⟩, ⟨0x1bc, 0x1bc, 1, 0x1bd⟩,
   ⟨0x1c4, 0x1c4, 1, 0x1c6⟩, ⟨0x1c5, 0x1c5, 1, 0x1c6⟩, ⟨0x1c7, 0x1c7, 1, 0x1c9⟩,
   ⟨0x1c8, 0x1c8, 1, 0x1c9⟩, ⟨0x1ca, 0x1ca, 1, 0x1cc⟩, ⟨0x1cb, 0x1db, 2, 0x1cc⟩,
   ⟨0x1de, 0x1ee, 2, 0x1df⟩, ⟨0x1f1, 0x1f1, 1, 0x1f3⟩, ⟨0x1f2, 0x1f4, 2, 0x1f3⟩,
   ⟨0x1f6, 0x1f6, 1, 0x195⟩, ⟨0x1f7, 0x1f7, 1, 0x1bf⟩, ⟨0x1f8, 0x21e, 2, 0x1f9⟩,
   ⟨0x220, 0x220, 1, 0x19e⟩, ⟨0x222, 0x232, 2, 0x223⟩, ⟨0x23a, 0x23a, 1, 0x2c65⟩,
   ⟨0x23b, 0x23b, 1, 0x23c⟩, ⟨0x23d, 0x23d, 1, 0x19a⟩, ⟨0x23e, 0x23e, 1, 0x2c66⟩,
   ⟨0x241, 0x241, 1, 0x242⟩, ⟨0x243, 0x243, 1, 0x180⟩, ⟨0x244, 0x244, 1, 0x289⟩,
   ⟨0x245, 0x245, 1, 0x28c⟩, ⟨0x246, 0x24e, 2, 0x247⟩, ⟨0x370, 0x372, 2, 0x371⟩,
   ⟨0x376, 0x376, 1, 0x377⟩, ⟨0x37f, 0x37f, 1, 0x3f3⟩, ⟨0x386, 0x386, 1, 0x3ac⟩,
   ⟨0x388, 0x38a, 1, 0x3ad⟩, ⟨0x38c, 0x38c, 1, 0x3cc⟩, ⟨0x38e, 0x38f, 1, 0x3cd⟩,
   ⟨0x391, 0x3a1, 1, 0x3b1⟩, ⟨0x3a3, 0x3ab, 1, 0x3c3⟩, ⟨0x3cf, 0x3cf, 1, 0x3d7⟩,
   ⟨0x3d8, 0x3ee, 2, 0x3d9⟩, ⟨0x3f4, 0x3f4, 1, 0x3b8⟩, ⟨0x3f7, 0x3f7, 1, 0x3f8⟩,
   ⟨0x3f9, 0x3f9, 1, 0x3f2⟩, ⟨0x3fa, 0x3fa, 1, 0x3fb⟩, ⟨0x3fd, 0x3ff, 1, 0x37b⟩,
   ⟨0x400, 0x40f, 1, 0x450⟩, ⟨0x410, 0x42f, 1, 0x430⟩, ⟨0x460, 0x480, 2, 0x461⟩,
   ⟨0x48a, 0x4be, 2, 0x48b⟩, ⟨0x4c0, 0x4c0, 1, 0x4cf⟩, ⟨0x4c1, 0x4cd, 2, 0x4c2⟩,
   ⟨0x4d0, 0x52e, 2, 0x4d1⟩, ⟨0x531, 0x556, 1, 0x561⟩, ⟨0x10a0, 0x10c5, 1, 0x2d00⟩,
   ⟨0x10c7, 0x10c7, 1, 0x2d27⟩, ⟨0x10cd, 0x10cd, 1, 0x2d2d⟩, ⟨0x13a0, 0x13ef, 1, 0xab70⟩,
   ⟨0x13f0, 0x13f5, 1, 0x13f8⟩, ⟨0x1c89, 0x1c89, 1, 0x1c8a⟩, ⟨0x1c90, 0x1cba, 1, 0x10d0⟩,
   ⟨0x1cbd, 0x1cbf, 1, 0x10fd⟩, ⟨0x1e00, 0x1e94, 2, 0x1e01⟩, ⟨0x1e9e, 0x1e9e, 1, 0xdf⟩,
   ⟨0x1ea0, 0x1efe, 2, 0x1ea1⟩, ⟨0x1f08, 0x1f0f, 1, 0x1f00⟩, ⟨0x1f18, 0x1f1d, 1, 0x1f10⟩,
   ⟨0x1f28, 0x1f2f, 1, 0x1f20⟩, ⟨0x1f38, 0x1f3f, 1, 0x1f30⟩, ⟨0x1f48, 0x1f4d, 1, 0x1f40⟩,
   ⟨0x1f59, 0x1f5f, 2, 0x1f51⟩, ⟨0x1f68, 0x1f6f, 1, 0x1f60⟩, ⟨0x1f88, 0x1f8f, 1, 0x1f80⟩,
   ⟨0x1f98, 0x1f9f, 1, 0x1f90⟩, ⟨0x1fa8, 0x1faf, 1, 0x1fa0⟩, ⟨0x1fb8, 0x1fb9, 1, 0x1fb0⟩,
   ⟨0x1fba, 0x1fbb, 1, 0x1f70⟩, ⟨0x1fbc, 0x1fbc, 1, 0x1fb3⟩, ⟨0x1fc8, 0x1fcb, 1, 0x1f72⟩,
   ⟨0x1fcc, 0x1fcc, 1, 0x1fc3⟩, ⟨0x1fd8, 0x1fd9, 1, 0x1fd0⟩, ⟨0x1fda, 0x1fdb, 1, 0x1f76⟩,
   ⟨0x1fe8, 0x1fe9, 1, 0x1fe0⟩, ⟨0x1fea, 0x1feb, 1, 0x1f7a⟩, ⟨0x1fec, 0x1fec, 1, 0x1fe5⟩,
   ⟨0x1ff8, 0x1ff9, 1, 0x1f78⟩, ⟨0x1ffa, 0x1ffb, 1, 0x1f7c⟩, ⟨0x1ffc, 0x1ffc, 1, 0x1ff3⟩,
   ⟨0x2126, 0x2126, 1, 0x3c9⟩, ⟨0x212a, 0x212a, 1, 0x6b⟩, ⟨0x212b, 0x212b, 1, 0xe5⟩,
   ⟨0x2132, 0x2132, 1, 0x214e⟩, ⟨0x2160, 0x216f, 1, 0x2170⟩, ⟨0x2183, 0x2183, 1, 0x2184⟩,
   ⟨0x24b6, 0x24cf, 1, 0x24d0⟩, ⟨0x2c00, 0x2c2f, 1, 0x2c30⟩, ⟨0x2c60, 0x2c60, 1, 0x2c61⟩,
   ⟨0x2c62, 0x2c62, 1, 0x26b⟩, ⟨0x2c63, 0x2c63, 1, 0x1d7d⟩, ⟨0x2c64, 0x2c64, 1, 0x27d⟩,
   ⟨0x2c67, 0x2c6b, 2, 0x2c68⟩, ⟨0x2c6d, 0x2c6d, 1, 0x251⟩, ⟨0x2c6e, 0x2c6e, 1, 0x271⟩,
   ⟨0x2c6f, 0x2c6f, 1, 0x250⟩, ⟨0x2c70, 0x2c70, 1, 0x252⟩, ⟨0x2c72, 0x2c72, 1, 0x2c73⟩,
   ⟨0x2c75, 0x2c75, 1, 0x2c76⟩, ⟨0x2c7e, 0x2c7f, 1, 0x23f⟩, ⟨0x2c80, 0x2ce2, 2, 0x2c81⟩,
   ⟨0x2ceb, 0x2ced, 2, 0x2cec⟩, ⟨0x2cf2, 0x2cf2, 1, 0x2cf3⟩, ⟨0xa640, 0xa66c, 2, 0xa641⟩,
   ⟨0xa680, 0xa69a, 2, 0xa681⟩, ⟨0xa722, 0xa72e, 2, 0xa723⟩, ⟨0xa732, 0xa76e, 2, 0xa733⟩,
   ⟨0xa779, 0xa77b, 2, 0xa77a⟩, ⟨0xa77d, 0xa77d, 1, 0x1d79⟩, ⟨0xa77e, 0xa786, 2, 0xa77f⟩,
   ⟨0xa78b, 0xa78b, 1, 0xa78c⟩, ⟨0xa78d, 0xa78d, 1, 0x265⟩, ⟨0xa790, 0xa792, 2, 0xa791⟩,
   ⟨0xa796, 0xa7a8, 2, 0xa797⟩, ⟨0xa7aa, 0xa7aa, 1, 0x266⟩, ⟨0xa7ab, 0xa7ab, 1, 0x25c⟩,
   ⟨0xa7ac, 0xa7ac, 1, 0x261⟩, ⟨0xa7ad, 0xa7ad, 1, 0x26c⟩, ⟨0xa7ae, 0xa7ae, 1, 0x26a⟩,
   ⟨0xa7b0, 0xa7b0, 1, 0x29e⟩, ⟨0xa7b1, 0xa7b1, 1, 0x287⟩, ⟨0xa7b2, 0xa7b2, 1, 0x29d⟩,
   ⟨0xa7b3, 0xa7b3, 1, 0xab53⟩, ⟨0xa7b4, 0xa7c2, 2, 0xa7b5⟩, ⟨0xa7c4, 0xa7c4, 1, 0xa794⟩,
   ⟨0xa7c5, 0xa7c5, 1, 0x282⟩, ⟨0xa7c6, 0xa7c6, 1, 0x1d8e⟩, ⟨0xa7c7, 0xa7c9, 2, 0xa7c8⟩,
   ⟨0xa7cb, 0xa7cb, 1, 0x264⟩, ⟨0xa7cc, 0xa7da, 2, 0xa7cd⟩, ⟨0xa7dc, 0xa7dc, 1, 0x19b⟩,
   ⟨0xa7f5, 0xa7f5, 1, 0xa7f6⟩, ⟨0xff21, 0xff3a, 1, 0xff41⟩, ⟨0x10400, 0x10427, 1, 0x10428⟩,
   ⟨0x104b0, 0x104d3, 1, 0x104d8⟩, ⟨0x10570, 0x1057a, 1, 0x10597⟩, ⟨0x1057c, 0x1058a, 1, 0x105a3⟩,
   ⟨0x1058c, 0x10592, 1, 0x105b3⟩, ⟨0x10594, 0x10595, 1, 0x105bb⟩, ⟨0x10c80, 0x10cb2, 1, 0x10cc0⟩,
   ⟨0x10d50, 0x10d65, 1, 0x10d70⟩, ⟨0x118a0, 0x118bf, 1, 0x118c0⟩, ⟨0x16e40, 0x16e5f, 1, 0x16e60⟩,
   ⟨0x16ea0, 0x16eb8, 1, 0x16ebb⟩, ⟨0x1e900, 0x1e921, 1, 0x1e922⟩]

/-- Mapped by the first range that covers the rune, if there is one. -/
def mapRune (ranges : List CaseRange) (c : Char) : Char :=
  match ranges.find? (·.covers c.toNat) with
  | some r => Char.ofNat (r.image + (c.toNat - r.lo))
  | none => c

/-- `unicode.ToUpper`. -/
def toUpper (c : Char) : Char :=
  mapRune (if c.toNat < 128 then [⟨0x61, 0x7a, 1, 0x41⟩] else upperRanges) c

/-- `unicode.ToLower`. -/
def toLower (c : Char) : Char :=
  mapRune (if c.toNat < 128 then [⟨0x41, 0x5a, 1, 0x61⟩] else lowerRanges) c

/-- One rune for each orbit of `unicode.SimpleFold`. -/
def fold (c : Char) : Char := if c = 'İ' ∨ c = 'ı' then c else toLower (toUpper c)

/-! ## Into ASCII -/

theorem toNat_ofNat {n : Nat} (h : n.isValidChar) : (Char.ofNat n).toNat = n := by
  rw [Char.ofNat, dif_pos h]
  rfl

theorem eq_of_toNat_eq {c d : Char} (h : c.toNat = d.toNat) : c = d := by
  rw [← Char.ofNat_toNat c, h, Char.ofNat_toNat]

/-- With one range a rune moves by the distance of the range, or stays. -/
theorem toNat_mapRune_singleton {r : CaseRange} (hvalid : r.image + (r.hi - r.lo) < 0xd800)
    (c : Char) : (mapRune [r] c).toNat =
      if r.covers c.toNat = true then r.image + (c.toNat - r.lo) else c.toNat := by
  rw [mapRune, List.find?_singleton]
  by_cases hcovers : r.covers c.toNat = true
  · obtain ⟨-, hhi, -⟩ := r.covers_iff.mp hcovers
    rw [if_pos hcovers, if_pos hcovers]
    exact toNat_ofNat (.inl (by omega))
  · rw [if_neg hcovers, if_neg hcovers]

theorem toNat_toUpper {c : Char} (hc : c.toNat < 128) :
    (toUpper c).toNat = if 0x61 ≤ c.toNat ∧ c.toNat ≤ 0x7a then c.toNat - 0x20 else c.toNat := by
  rw [toUpper, if_pos hc, toNat_mapRune_singleton (by decide)]
  simp only [CaseRange.covers_iff, Nat.mod_one, and_true]
  split
  · omega
  · rfl

theorem toNat_toLower {c : Char} (hc : c.toNat < 128) :
    (toLower c).toNat = if 0x41 ≤ c.toNat ∧ c.toNat ≤ 0x5a then c.toNat + 0x20 else c.toNat := by
  rw [toLower, if_pos hc, toNat_mapRune_singleton (by decide)]
  simp only [CaseRange.covers_iff, Nat.mod_one, and_true]
  split
  · omega
  · rfl

theorem toUpper_ascii {c : Char} (hc : c.toNat < 128) : (toUpper c).toNat < 128 := by
  rw [toNat_toUpper hc]
  split <;> omega

theorem toLower_ascii {c : Char} (hc : c.toNat < 128) : (toLower c).toNat < 128 := by
  rw [toNat_toLower hc]
  split <;> omega

/-- Upper case, lower case and upper case again. -/
theorem toUpper_toLower_toUpper {c : Char} (hc : c.toNat < 128) :
    toUpper (toLower (toUpper c)) = toUpper c := by
  refine eq_of_toNat_eq ?_
  rw [toNat_toUpper (toLower_ascii (toUpper_ascii hc)), toNat_toLower (toUpper_ascii hc),
    toNat_toUpper hc]
  grind

/-- The runes that are mapped into it from outside. -/
theorem mapped_into_ascii :
    toUpper 'ı' = 'I' ∧ toUpper 'ſ' = 'S' ∧ toLower 'İ' = 'i' ∧ toLower '\u212a' = 'k' := by
  decide +kernel

/-- The images of the range are code points. -/
def CaseRange.valid (r : CaseRange) : Bool :=
  (r.image + (r.hi - r.lo) < 0xd800 || 0xdfff < r.image) && r.image + (r.hi - r.lo) < 0x110000

/-- A rune that is mapped at all is mapped to its place among the images of a
range. -/
theorem mapRune_cases {ranges : List CaseRange} (hvalid : ∀ r ∈ ranges, r.valid = true)
    (c : Char) : mapRune ranges c = c ∨ ∃ r ∈ ranges, r.covers c.toNat = true ∧
      (mapRune ranges c).toNat = r.image + (c.toNat - r.lo) := by
  rw [mapRune]
  split
  next r hfind =>
    have hcovers := List.find?_some hfind
    have hmem := List.mem_of_find?_eq_some hfind
    have hrange := hvalid r hmem
    obtain ⟨hlo, hhi, -⟩ := r.covers_iff.mp hcovers
    simp only [CaseRange.valid, Bool.or_eq_true, Bool.and_eq_true, decide_eq_true_eq] at hrange
    exact .inr ⟨r, hmem, hcovers, toNat_ofNat (by unfold Nat.isValidChar; omega)⟩
  next => exact .inl rfl

/-- The range has no image in ASCII, or is one of the given runes. -/
def CaseRange.leaves (exceptions : List Nat) (r : CaseRange) : Bool :=
  128 ≤ r.image || (r.lo == r.hi && exceptions.contains r.lo)

theorem ranges_checked :
    (∀ r ∈ upperRanges, r.valid = true ∧ r.leaves [0x131, 0x17f] = true) ∧
      ∀ r ∈ lowerRanges, r.valid = true ∧ r.leaves [0x130, 0x212a] = true := by
  decide +kernel

/-- The runes outside ASCII that are mapped into it are the exceptions. -/
theorem mem_of_mapRune_lt {ranges : List CaseRange} {exceptions : List Nat}
    (hchecked : ∀ r ∈ ranges, r.valid = true ∧ r.leaves exceptions = true)
    {c : Char} (hc : 128 ≤ c.toNat) (h : (mapRune ranges c).toNat < 128) :
    c.toNat ∈ exceptions := by
  rcases mapRune_cases (fun r hr => (hchecked r hr).1) c with
    hsame | ⟨r, hmem, hcovers, himage⟩
  · rw [hsame] at h
    omega
  · obtain ⟨hlo, hhi, -⟩ := r.covers_iff.mp hcovers
    have hleaves := (hchecked r hmem).2
    simp only [CaseRange.leaves, Bool.or_eq_true, Bool.and_eq_true, decide_eq_true_eq, beq_iff_eq,
      List.contains_iff_mem] at hleaves
    rcases hleaves with houtside | ⟨hsingle, hexception⟩
    · omega
    · have hrune : c.toNat = r.lo := by omega
      rw [hrune]
      exact hexception

theorem toUpper_lt {c : Char} (hc : 128 ≤ c.toNat) (h : (toUpper c).toNat < 128) :
    c = 'ı' ∨ c = 'ſ' := by
  rw [toUpper, if_neg (by omega)] at h
  have hmem := mem_of_mapRune_lt ranges_checked.1 hc h
  simp only [List.mem_cons, List.not_mem_nil, or_false] at hmem
  exact hmem.imp eq_of_toNat_eq eq_of_toNat_eq

theorem toLower_lt {c : Char} (hc : 128 ≤ c.toNat) (h : (toLower c).toNat < 128) :
    c = 'İ' ∨ c = '\u212a' := by
  rw [toLower, if_neg (by omega)] at h
  have hmem := mem_of_mapRune_lt ranges_checked.2 hc h
  simp only [List.mem_cons, List.not_mem_nil, or_false] at hmem
  exact hmem.imp eq_of_toNat_eq eq_of_toNat_eq

/-! ## Letters of one case

The runes `toLower` moves, the runes it moves them to, and the runes that no
letter case leads to or from. No two of the three meet. -/

/-- As many runes as the range has, from another one on. -/
def CaseRange.runesFrom (r : CaseRange) (first : Nat) : List Nat :=
  List.range' first ((r.hi - r.lo) / r.step + 1) r.step

theorem CaseRange.mem_runesFrom {r : CaseRange} {n : Nat} (hcovers : r.covers n = true)
    (first : Nat) : first + (n - r.lo) ∈ r.runesFrom first := by
  obtain ⟨-, hhi, hstep⟩ := r.covers_iff.mp hcovers
  refine List.mem_range'.mpr ⟨(n - r.lo) / r.step, ?_, ?_⟩
  · exact Nat.lt_succ_of_le (Nat.div_le_div_right (by omega))
  · rw [Nat.mul_div_cancel' (Nat.dvd_of_mod_eq_zero hstep)]

def uppers : List Nat :=
  (⟨0x41, 0x5a, 1, 0x61⟩ :: lowerRanges).flatMap fun r => r.runesFrom r.lo

def lowers : List Nat :=
  (⟨0x41, 0x5a, 1, 0x61⟩ :: lowerRanges).flatMap fun r => r.runesFrom r.image

/-- White space, and ASCII without its letters. -/
def caseless : List Nat :=
  List.range 0x41 ++ List.range' 0x5b 6 ++ List.range' 0x7b 5 ++
    [0x85, 0xa0, 0x1680, 0x2028, 0x2029, 0x202f, 0x205f, 0x3000] ++ List.range' 0x2000 11

/-- A set of code points, as the bits of a number. -/
def mask (l : List Nat) : Nat := l.foldr (fun n m => 1 <<< n ||| m) 0

theorem testBit_mask (l : List Nat) (k : Nat) : (mask l).testBit k = decide (k ∈ l) := by
  induction l with
  | nil => simp [mask]
  | cons n l ih =>
      rw [mask, List.foldr_cons, Nat.testBit_or, ← mask, ih, Nat.one_shiftLeft,
        Nat.testBit_two_pow]
      simp [eq_comm]

theorem notMem_of_mask {a b : List Nat} (h : mask a &&& mask b = 0) {n : Nat} (ha : n ∈ a) :
    n ∉ b := by
  intro hb
  have hbit : (mask a &&& mask b).testBit n = false := by rw [h, Nat.zero_testBit]
  rw [Nat.testBit_and, testBit_mask, testBit_mask] at hbit
  simp [ha, hb] at hbit

theorem masks_apart :
    mask lowers &&& mask uppers = 0 ∧ mask caseless &&& mask uppers = 0 ∧
      mask caseless &&& mask lowers = 0 := by
  decide +kernel

theorem toLower_cases (c : Char) :
    toLower c = c ∨ c.toNat ∈ uppers ∧ (toLower c).toNat ∈ lowers := by
  have hmoved : ∀ ranges ⊆ (⟨0x41, 0x5a, 1, 0x61⟩ :: lowerRanges : List CaseRange),
      (∀ r ∈ ranges, r.valid = true) →
        mapRune ranges c = c ∨ c.toNat ∈ uppers ∧ (mapRune ranges c).toNat ∈ lowers := by
    intro ranges hsub hvalid
    rcases mapRune_cases hvalid c with hsame | ⟨r, hr, hcovers, himage⟩
    · exact .inl hsame
    · have hsource := r.mem_runesFrom hcovers r.lo
      rw [Nat.add_sub_cancel' (r.covers_iff.mp hcovers).1] at hsource
      rw [himage]
      exact .inr ⟨List.mem_flatMap.mpr ⟨r, hsub hr, hsource⟩,
        List.mem_flatMap.mpr ⟨r, hsub hr, r.mem_runesFrom hcovers r.image⟩⟩
  rw [toLower]
  split
  · exact hmoved _ (by simp) (by decide)
  · exact hmoved _ (List.subset_cons_self _ _) (fun r hr => (ranges_checked.2 r hr).1)

theorem toLower_toLower (c : Char) : toLower (toLower c) = toLower c := by
  rcases toLower_cases c with hsame | ⟨-, hlower⟩
  · rw [hsame, hsame]
  · exact (toLower_cases (toLower c)).resolve_right
      (fun h => notMem_of_mask masks_apart.1 hlower h.1)

theorem toLower_eq_iff_of_caseless {c : Char} (hc : c.toNat ∈ caseless) (r : Char) :
    toLower r = c ↔ r = c := by
  refine ⟨?_, ?_⟩
  · rintro rfl
    rcases toLower_cases r with hsame | ⟨-, hlower⟩
    · exact hsame.symm
    · exact absurd hlower (notMem_of_mask masks_apart.2.2 hc)
  · rintro rfl
    exact (toLower_cases r).resolve_right (fun h => notMem_of_mask masks_apart.2.1 hc h.1)

/-! ## Folding and upper case -/

theorem fold_of_ne {c : Char} (hdotted : c ≠ 'İ') (hdotless : c ≠ 'ı') :
    fold c = toLower (toUpper c) := by
  rw [fold, if_neg (not_or.mpr ⟨hdotted, hdotless⟩)]

theorem fold_ascii {c : Char} (hc : c.toNat < 128) : fold c = toLower (toUpper c) := by
  refine fold_of_ne ?_ ?_
  · rintro rfl
    exact absurd hc (by decide)
  · rintro rfl
    exact absurd hc (by decide)

/-- In ASCII the rune folded to still has the upper case. -/
theorem toUpper_fold {c : Char} (hc : c.toNat < 128) : toUpper (fold c) = toUpper c := by
  rw [fold_ascii hc]
  exact toUpper_toLower_toUpper hc

/-- The runes outside ASCII that fold into it. -/
theorem fold_lt {r : Char} (hr : 128 ≤ r.toNat) (h : (fold r).toNat < 128) :
    r = 'ſ' ∨ fold r = 'i' ∨ fold r = 'k' := by
  by_cases hexception : r = 'İ' ∨ r = 'ı'
  · rw [fold, if_pos hexception] at h
    omega
  · rw [not_or] at hexception
    rw [fold_of_ne hexception.1 hexception.2] at h ⊢
    by_cases hupper : (toUpper r).toNat < 128
    · exact .inl ((toUpper_lt hr hupper).resolve_left hexception.2)
    · obtain ⟨-, -, hi, hk⟩ := mapped_into_ascii
      rcases toLower_lt (by omega) h with hdotted | hkelvin
      · rw [hdotted]
        exact .inr (.inl hi)
      · rw [hkelvin]
        exact .inr (.inr hk)

/-- Folding and upper-casing identify the same runes with a rune of ASCII,
save with the letters I and K. -/
theorem fold_eq_iff {c : Char} (hc : c.toNat < 128) (hi : toUpper c ≠ 'I') (hk : toUpper c ≠ 'K')
    (r : Char) : fold r = fold c ↔ toUpper r = toUpper c := by
  obtain ⟨hdotless, hlong, -, -⟩ := mapped_into_ascii
  have hs : fold 'ſ' = 's' := by
    rw [fold_of_ne (by decide) (by decide), hlong]
    rfl
  by_cases hr : r.toNat < 128
  · refine ⟨fun h => ?_, fun h => ?_⟩
    · rw [← toUpper_fold hr, h, toUpper_fold hc]
    · rw [fold_ascii hr, h, fold_ascii hc]
  · refine ⟨fun h => ?_, fun h => ?_⟩
    · have hlt : (fold r).toNat < 128 := by
        rw [h, fold_ascii hc]
        exact toLower_ascii (toUpper_ascii hc)
      rw [← toUpper_fold hc, ← h]
      rcases fold_lt (by omega) hlt with rfl | hfold | hfold
      · rw [hs, hlong]
        rfl
      · refine absurd ?_ hi
        rw [← toUpper_fold hc, ← h, hfold]
        rfl
      · refine absurd ?_ hk
        rw [← toUpper_fold hc, ← h, hfold]
        rfl
    · have hlt : (toUpper r).toNat < 128 := by
        rw [h]
        exact toUpper_ascii hc
      rcases toUpper_lt (by omega) hlt with rfl | rfl
      · exact absurd (h.symm.trans hdotless) hi
      · rw [fold_ascii hc, ← h, hlong, hs]
        rfl

end WebEid.Lib.Unicode
