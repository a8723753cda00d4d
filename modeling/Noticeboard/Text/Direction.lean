import Noticeboard.Text.Mark

/-!
The direction in which the characters of names are written, as far as it matters where scripts
of both directions meet (Unicode 14.0).
-/

namespace Noticeboard.Text

inductive Direction
  | leftward
  | rightward
  /-- Digits as in Europe. -/
  | european
  /-- Digits of the Arabic script. -/
  | arabic
  /-- A mark, which goes with the character before it. -/
  | attached
  | neutral
  /-- Characters younger than the table. -/
  | unknown
  deriving DecidableEq, Repr

/-- The characters of scripts that are written to the left. -/
def leftwardRuns : List Run :=
  [⟨0x5d0, 0x5ea, 1⟩, ⟨0x5ef, 0x5f4, 1⟩, ⟨0x620, 0x63f, 1⟩, ⟨0x641, 0x64a, 1⟩, ⟨0x66e, 0x66f, 1⟩,
   ⟨0x671, 0x674, 1⟩, ⟨0x679, 0x6d3, 1⟩, ⟨0x6d5, 0x6d5, 1⟩, ⟨0x6e5, 0x6e6, 1⟩, ⟨0x6ee, 0x6ef, 1⟩,
   ⟨0x6fa, 0x6ff, 1⟩, ⟨0x710, 0x712, 2⟩, ⟨0x713, 0x72f, 1⟩, ⟨0x74d, 0x7a5, 1⟩, ⟨0x7b1, 0x7b1, 1⟩,
   ⟨0x7c0, 0x7ea, 1⟩, ⟨0x7f4, 0x7f5, 1⟩, ⟨0x800, 0x815, 1⟩, ⟨0x81a, 0x81a, 1⟩, ⟨0x824, 0x824, 1⟩,
   ⟨0x828, 0x828, 1⟩, ⟨0x840, 0x858, 1⟩, ⟨0x860, 0x86a, 1⟩, ⟨0x870, 0x887, 1⟩, ⟨0x889, 0x88e, 1⟩,
   ⟨0x8a0, 0x8c9, 1⟩, ⟨0xfe73, 0xfe73, 1⟩, ⟨0x10800, 0x10805, 1⟩, ⟨0x10808, 0x1080a, 2⟩,
   ⟨0x1080b, 0x10835, 1⟩, ⟨0x10837, 0x10838, 1⟩, ⟨0x1083c, 0x1083c, 1⟩, ⟨0x1083f, 0x10855, 1⟩,
   ⟨0x10860, 0x10876, 1⟩, ⟨0x10880, 0x1089e, 1⟩, ⟨0x108e0, 0x108f2, 1⟩, ⟨0x108f4, 0x108f5, 1⟩,
   ⟨0x10900, 0x10915, 1⟩, ⟨0x10920, 0x10939, 1⟩, ⟨0x10980, 0x109b7, 1⟩, ⟨0x109be, 0x109bf, 1⟩,
   ⟨0x10a00, 0x10a00, 1⟩, ⟨0x10a10, 0x10a13, 1⟩, ⟨0x10a15, 0x10a17, 1⟩, ⟨0x10a19, 0x10a35, 1⟩,
   ⟨0x10a60, 0x10a7c, 1⟩, ⟨0x10a80, 0x10a9c, 1⟩, ⟨0x10ac0, 0x10ac7, 1⟩, ⟨0x10ac9, 0x10ae4, 1⟩,
   ⟨0x10b00, 0x10b35, 1⟩, ⟨0x10b40, 0x10b55, 1⟩, ⟨0x10b60, 0x10b72, 1⟩, ⟨0x10b80, 0x10b91, 1⟩,
   ⟨0x10c00, 0x10c48, 1⟩, ⟨0x10cc0, 0x10cf2, 1⟩, ⟨0x10d00, 0x10d23, 1⟩, ⟨0x10e80, 0x10ea9, 1⟩,
   ⟨0x10eb0, 0x10eb1, 1⟩, ⟨0x10f00, 0x10f1c, 1⟩, ⟨0x10f27, 0x10f27, 1⟩, ⟨0x10f30, 0x10f45, 1⟩,
   ⟨0x10f70, 0x10f81, 1⟩, ⟨0x10fb0, 0x10fc4, 1⟩, ⟨0x10fe0, 0x10ff6, 1⟩, ⟨0x1e800, 0x1e8c4, 1⟩,
   ⟨0x1e922, 0x1e943, 1⟩, ⟨0x1e94b, 0x1e94b, 1⟩, ⟨0x1e950, 0x1e959, 1⟩]

/-- The characters without a direction. -/
def neutralRuns : List Run :=
  [⟨0x2d, 0x2d, 1⟩, ⟨0xb7, 0xb7, 1⟩, ⟨0x2b9, 0x2ba, 1⟩, ⟨0x2c6, 0x2cf, 1⟩, ⟨0x2ec, 0x2ec, 1⟩,
   ⟨0x375, 0x375, 1⟩, ⟨0x200c, 0x200d, 1⟩, ⟨0x2e2f, 0x2e2f, 1⟩, ⟨0x30fb, 0x30fb, 1⟩,
   ⟨0xa67f, 0xa67f, 1⟩, ⟨0xa717, 0xa71f, 1⟩, ⟨0xa788, 0xa788, 1⟩]

/-- The characters of names that came after Unicode 14.0. -/
def unknownRuns : List Run :=
  [⟨0x88f, 0x88f, 1⟩, ⟨0x897, 0x897, 1⟩, ⟨0xc5c, 0xc5c, 1⟩, ⟨0xcdc, 0xcdc, 1⟩, ⟨0xcf3, 0xcf3, 1⟩,
   ⟨0xece, 0xece, 1⟩, ⟨0x1acf, 0x1add, 1⟩, ⟨0x1ae0, 0x1aeb, 1⟩, ⟨0x1c8a, 0x1c8a, 1⟩,
   ⟨0xa7cd, 0xa7cf, 2⟩, ⟨0xa7db, 0xa7db, 1⟩, ⟨0x105c0, 0x105f3, 1⟩, ⟨0x10940, 0x10959, 1⟩,
   ⟨0x10d40, 0x10d4f, 1⟩, ⟨0x10d69, 0x10d6d, 1⟩, ⟨0x10d6f, 0x10d85, 1⟩, ⟨0x10ec2, 0x10ec7, 1⟩,
   ⟨0x10efa, 0x10eff, 1⟩, ⟨0x1123f, 0x11241, 1⟩, ⟨0x11380, 0x11389, 1⟩, ⟨0x1138b, 0x1138b, 1⟩,
   ⟨0x1138e, 0x11390, 2⟩, ⟨0x11391, 0x113b5, 1⟩, ⟨0x113b7, 0x113c0, 1⟩, ⟨0x113c2, 0x113c2, 1⟩,
   ⟨0x113c5, 0x113c7, 2⟩, ⟨0x113c8, 0x113ca, 1⟩, ⟨0x113cc, 0x113d3, 1⟩, ⟨0x113e1, 0x113e2, 1⟩,
   ⟨0x116d0, 0x116e3, 1⟩, ⟨0x11b60, 0x11b67, 1⟩, ⟨0x11bc0, 0x11be0, 1⟩, ⟨0x11bf0, 0x11bf9, 1⟩,
   ⟨0x11db0, 0x11ddb, 1⟩, ⟨0x11de0, 0x11de9, 1⟩, ⟨0x11f00, 0x11f10, 1⟩, ⟨0x11f12, 0x11f3a, 1⟩,
   ⟨0x11f3e, 0x11f42, 1⟩, ⟨0x11f50, 0x11f5a, 1⟩, ⟨0x1342f, 0x1342f, 1⟩, ⟨0x13440, 0x13455, 1⟩,
   ⟨0x13460, 0x143fa, 1⟩, ⟨0x16100, 0x16139, 1⟩, ⟨0x16d40, 0x16d6c, 1⟩, ⟨0x16d70, 0x16d79, 1⟩,
   ⟨0x16ebb, 0x16ed3, 1⟩, ⟨0x16ff2, 0x16ff3, 1⟩, ⟨0x187f8, 0x187ff, 1⟩, ⟨0x18cff, 0x18cff, 1⟩,
   ⟨0x18d09, 0x18d1e, 1⟩, ⟨0x18d80, 0x18df2, 1⟩, ⟨0x1b132, 0x1b132, 1⟩, ⟨0x1b155, 0x1b155, 1⟩,
   ⟨0x1df25, 0x1df2a, 1⟩, ⟨0x1e08f, 0x1e08f, 1⟩, ⟨0x1e4d0, 0x1e4f9, 1⟩, ⟨0x1e5d0, 0x1e5fa, 1⟩,
   ⟨0x1e6c0, 0x1e6de, 1⟩, ⟨0x1e6e0, 0x1e6f5, 1⟩, ⟨0x1e6fe, 0x1e6ff, 1⟩, ⟨0x2b739, 0x2b73f, 1⟩,
   ⟨0x2cea2, 0x2cead, 1⟩, ⟨0x2ebf0, 0x2ee5d, 1⟩, ⟨0x31350, 0x33479, 1⟩]

/-- The marks that have the direction of letters. -/
def detachedMarks : List Run :=
  [⟨0xcbf, 0xcbf, 1⟩, ⟨0xcc6, 0xcc6, 1⟩, ⟨0x11a07, 0x11a08, 1⟩, ⟨0x11c3f, 0x11c3f, 1⟩]

/-- The direction of a character that names may be written with. -/
def directionOf (c : Char) : Direction :=
  if Run.anyHas leftwardRuns c then .leftward
  else if Run.anyHas unknownRuns c then .unknown
  else if Run.anyHas [⟨0x660, 0x669, 1⟩, ⟨0x10d30, 0x10d39, 1⟩] c then .arabic
  else if Run.anyHas [⟨0x30, 0x39, 1⟩, ⟨0x6f0, 0x6f9, 1⟩] c then .european
  else if Run.anyHas neutralRuns c then .neutral
  else if isInlineMark c && !Run.anyHas detachedMarks c then .attached
  else .rightward

end Noticeboard.Text
