import Noticeboard.Text.Mark

/-!
Scripts that some characters ask for beside them, and how the letters of cursive scripts join
the letters beside them (Unicode 17.0).
-/

namespace Noticeboard.Text

/-! ## Scripts -/

/-- Greek letters. -/
def greekRuns : List Run :=
  [⟨0x370, 0x373, 1⟩, ⟨0x375, 0x377, 1⟩, ⟨0x37a, 0x37d, 1⟩, ⟨0x37f, 0x37f, 1⟩, ⟨0x384, 0x388, 2⟩,
   ⟨0x389, 0x38a, 1⟩, ⟨0x38c, 0x38e, 2⟩, ⟨0x38f, 0x3a1, 1⟩, ⟨0x3a3, 0x3e1, 1⟩, ⟨0x3f0, 0x3ff, 1⟩,
   ⟨0x1d26, 0x1d2a, 1⟩, ⟨0x1d5d, 0x1d61, 1⟩, ⟨0x1d66, 0x1d6a, 1⟩, ⟨0x1dbf, 0x1dbf, 1⟩,
   ⟨0x1f00, 0x1f15, 1⟩, ⟨0x1f18, 0x1f1d, 1⟩, ⟨0x1f20, 0x1f45, 1⟩, ⟨0x1f48, 0x1f4d, 1⟩,
   ⟨0x1f50, 0x1f57, 1⟩, ⟨0x1f59, 0x1f5f, 2⟩, ⟨0x1f60, 0x1f7d, 1⟩, ⟨0x1f80, 0x1fb4, 1⟩,
   ⟨0x1fb6, 0x1fc4, 1⟩, ⟨0x1fc6, 0x1fd3, 1⟩, ⟨0x1fd6, 0x1fdb, 1⟩, ⟨0x1fdd, 0x1fef, 1⟩,
   ⟨0x1ff2, 0x1ff4, 1⟩, ⟨0x1ff6, 0x1ffe, 1⟩, ⟨0x2126, 0x2126, 1⟩, ⟨0xab65, 0xab65, 1⟩,
   ⟨0x10140, 0x1018e, 1⟩, ⟨0x101a0, 0x101a0, 1⟩, ⟨0x1d200, 0x1d245, 1⟩]

/-- Hebrew letters, points and marks. -/
def hebrewRuns : List Run :=
  [⟨0x591, 0x5c7, 1⟩, ⟨0x5d0, 0x5ea, 1⟩, ⟨0x5ef, 0x5f4, 1⟩, ⟨0xfb1d, 0xfb36, 1⟩,
   ⟨0xfb38, 0xfb3c, 1⟩, ⟨0xfb3e, 0xfb40, 2⟩, ⟨0xfb41, 0xfb43, 2⟩, ⟨0xfb44, 0xfb46, 2⟩,
   ⟨0xfb47, 0xfb4f, 1⟩]

/-- The characters of Hiragana, Katakana and Han. -/
def japaneseRuns : List Run :=
  [⟨0x2e80, 0x2e99, 1⟩, ⟨0x2e9b, 0x2ef3, 1⟩, ⟨0x2f00, 0x2fd5, 1⟩, ⟨0x3005, 0x3007, 2⟩,
   ⟨0x3021, 0x3029, 1⟩, ⟨0x3038, 0x303b, 1⟩, ⟨0x3041, 0x3096, 1⟩, ⟨0x309d, 0x309f, 1⟩,
   ⟨0x30a1, 0x30fa, 1⟩, ⟨0x30fd, 0x30ff, 1⟩, ⟨0x31f0, 0x31ff, 1⟩, ⟨0x32d0, 0x32fe, 1⟩,
   ⟨0x3300, 0x3357, 1⟩, ⟨0x3400, 0x4dbf, 1⟩, ⟨0x4e00, 0x9fff, 1⟩, ⟨0xf900, 0xfa6d, 1⟩,
   ⟨0xfa70, 0xfad9, 1⟩, ⟨0xff66, 0xff6f, 1⟩, ⟨0xff71, 0xff9d, 1⟩, ⟨0x16fe2, 0x16fe3, 1⟩,
   ⟨0x16ff0, 0x16ff6, 1⟩, ⟨0x1aff0, 0x1aff3, 1⟩, ⟨0x1aff5, 0x1affb, 1⟩, ⟨0x1affd, 0x1affe, 1⟩,
   ⟨0x1b000, 0x1b122, 1⟩, ⟨0x1b132, 0x1b132, 1⟩, ⟨0x1b150, 0x1b152, 1⟩, ⟨0x1b155, 0x1b155, 1⟩,
   ⟨0x1b164, 0x1b167, 1⟩, ⟨0x1f200, 0x1f200, 1⟩, ⟨0x20000, 0x2a6df, 1⟩, ⟨0x2a700, 0x2b81d, 1⟩,
   ⟨0x2b820, 0x2cead, 1⟩, ⟨0x2ceb0, 0x2ebe0, 1⟩, ⟨0x2ebf0, 0x2ee5d, 1⟩, ⟨0x2f800, 0x2fa1d, 1⟩,
   ⟨0x30000, 0x3134a, 1⟩, ⟨0x31350, 0x33479, 1⟩]

/-! ## Joining -/

/-- The letters that join the letter after them. -/
def joiningAfterRuns : List Run :=
  [⟨0x620, 0x620, 1⟩, ⟨0x626, 0x62a, 2⟩, ⟨0x62b, 0x62e, 1⟩, ⟨0x633, 0x63f, 1⟩, ⟨0x641, 0x647, 1⟩,
   ⟨0x649, 0x64a, 1⟩, ⟨0x66e, 0x66f, 1⟩, ⟨0x678, 0x687, 1⟩, ⟨0x69a, 0x6bf, 1⟩, ⟨0x6c1, 0x6c2, 1⟩,
   ⟨0x6cc, 0x6d0, 2⟩, ⟨0x6d1, 0x6d1, 1⟩, ⟨0x6fa, 0x6fc, 1⟩, ⟨0x6ff, 0x6ff, 1⟩, ⟨0x712, 0x714, 1⟩,
   ⟨0x71a, 0x71d, 1⟩, ⟨0x71f, 0x727, 1⟩, ⟨0x729, 0x72d, 2⟩, ⟨0x72e, 0x72e, 1⟩, ⟨0x74e, 0x758, 1⟩,
   ⟨0x75c, 0x76a, 1⟩, ⟨0x76d, 0x770, 1⟩, ⟨0x772, 0x772, 1⟩, ⟨0x775, 0x777, 1⟩, ⟨0x77a, 0x77f, 1⟩,
   ⟨0x7ca, 0x7ea, 1⟩, ⟨0x841, 0x845, 1⟩, ⟨0x848, 0x84a, 2⟩, ⟨0x84b, 0x853, 1⟩, ⟨0x855, 0x855, 1⟩,
   ⟨0x860, 0x862, 2⟩, ⟨0x863, 0x865, 1⟩, ⟨0x868, 0x868, 1⟩, ⟨0x886, 0x886, 1⟩, ⟨0x889, 0x88d, 1⟩,
   ⟨0x88f, 0x88f, 1⟩, ⟨0x8a0, 0x8a9, 1⟩, ⟨0x8af, 0x8b0, 1⟩, ⟨0x8b3, 0x8b8, 1⟩, ⟨0x8ba, 0x8c8, 1⟩,
   ⟨0x1807, 0x1807, 1⟩, ⟨0x1820, 0x1878, 1⟩, ⟨0x1887, 0x18a8, 1⟩, ⟨0x18aa, 0x18aa, 1⟩,
   ⟨0xa840, 0xa872, 1⟩, ⟨0x10ac0, 0x10ac4, 1⟩, ⟨0x10acd, 0x10acd, 1⟩, ⟨0x10ad3, 0x10adc, 1⟩,
   ⟨0x10ade, 0x10ae0, 1⟩, ⟨0x10aeb, 0x10aee, 1⟩, ⟨0x10b80, 0x10b82, 2⟩, ⟨0x10b86, 0x10b88, 1⟩,
   ⟨0x10b8a, 0x10b8b, 1⟩, ⟨0x10b8d, 0x10b8d, 1⟩, ⟨0x10b90, 0x10b90, 1⟩, ⟨0x10bad, 0x10bae, 1⟩,
   ⟨0x10d00, 0x10d21, 1⟩, ⟨0x10d23, 0x10d23, 1⟩, ⟨0x10ec3, 0x10ec4, 1⟩, ⟨0x10ec6, 0x10ec7, 1⟩,
   ⟨0x10f30, 0x10f32, 1⟩, ⟨0x10f34, 0x10f44, 1⟩, ⟨0x10f51, 0x10f53, 1⟩, ⟨0x10f70, 0x10f73, 1⟩,
   ⟨0x10f76, 0x10f81, 1⟩, ⟨0x10fb0, 0x10fb2, 2⟩, ⟨0x10fb3, 0x10fb3, 1⟩, ⟨0x10fb8, 0x10fb8, 1⟩,
   ⟨0x10fbb, 0x10fbc, 1⟩, ⟨0x10fbe, 0x10fbf, 1⟩, ⟨0x10fc1, 0x10fc1, 1⟩, ⟨0x10fc4, 0x10fc4, 1⟩,
   ⟨0x10fca, 0x10fcb, 1⟩, ⟨0x1e900, 0x1e943, 1⟩]

/-- The letters that join the letter before them. -/
def joiningBeforeRuns : List Run :=
  [⟨0x620, 0x622, 2⟩, ⟨0x623, 0x63f, 1⟩, ⟨0x641, 0x64a, 1⟩, ⟨0x66e, 0x66f, 1⟩, ⟨0x671, 0x673, 1⟩,
   ⟨0x675, 0x6d3, 1⟩, ⟨0x6d5, 0x6d5, 1⟩, ⟨0x6ee, 0x6ef, 1⟩, ⟨0x6fa, 0x6fc, 1⟩, ⟨0x6ff, 0x6ff, 1⟩,
   ⟨0x710, 0x712, 2⟩, ⟨0x713, 0x72f, 1⟩, ⟨0x74d, 0x77f, 1⟩, ⟨0x7ca, 0x7ea, 1⟩, ⟨0x840, 0x858, 1⟩,
   ⟨0x860, 0x862, 2⟩, ⟨0x863, 0x865, 1⟩, ⟨0x867, 0x86a, 1⟩, ⟨0x870, 0x882, 1⟩, ⟨0x886, 0x886, 1⟩,
   ⟨0x889, 0x88f, 1⟩, ⟨0x8a0, 0x8ac, 1⟩, ⟨0x8ae, 0x8c8, 1⟩, ⟨0x1807, 0x1807, 1⟩,
   ⟨0x1820, 0x1878, 1⟩, ⟨0x1887, 0x18a8, 1⟩, ⟨0x18aa, 0x18aa, 1⟩, ⟨0xa840, 0xa871, 1⟩,
   ⟨0x10ac0, 0x10ac5, 1⟩, ⟨0x10ac7, 0x10ac9, 2⟩, ⟨0x10aca, 0x10aca, 1⟩, ⟨0x10ace, 0x10ad6, 1⟩,
   ⟨0x10ad8, 0x10ae1, 1⟩, ⟨0x10ae4, 0x10ae4, 1⟩, ⟨0x10aeb, 0x10aef, 1⟩, ⟨0x10b80, 0x10b91, 1⟩,
   ⟨0x10ba9, 0x10bae, 1⟩, ⟨0x10d01, 0x10d23, 1⟩, ⟨0x10ec2, 0x10ec4, 1⟩, ⟨0x10ec6, 0x10ec7, 1⟩,
   ⟨0x10f30, 0x10f44, 1⟩, ⟨0x10f51, 0x10f54, 1⟩, ⟨0x10f70, 0x10f81, 1⟩, ⟨0x10fb0, 0x10fb2, 2⟩,
   ⟨0x10fb3, 0x10fb6, 1⟩, ⟨0x10fb8, 0x10fbf, 1⟩, ⟨0x10fc1, 0x10fc4, 1⟩, ⟨0x10fc9, 0x10fca, 1⟩,
   ⟨0x1e900, 0x1e943, 1⟩]

/-- The characters that letters join across, besides marks. -/
def transparentRuns : List Run :=
  [⟨0xad, 0xad, 1⟩, ⟨0x488, 0x489, 1⟩, ⟨0x61c, 0x61c, 1⟩, ⟨0x70f, 0x70f, 1⟩, ⟨0x897, 0x897, 1⟩,
   ⟨0xece, 0xece, 1⟩, ⟨0x1abe, 0x1abe, 1⟩, ⟨0x1acf, 0x1add, 1⟩, ⟨0x1ae0, 0x1aeb, 1⟩,
   ⟨0x200b, 0x200b, 1⟩, ⟨0x200e, 0x200f, 1⟩, ⟨0x202a, 0x202e, 1⟩, ⟨0x2060, 0x2064, 1⟩,
   ⟨0x206a, 0x206f, 1⟩, ⟨0x20dd, 0x20e0, 1⟩, ⟨0x20e2, 0x20e4, 1⟩, ⟨0xa670, 0xa672, 1⟩,
   ⟨0xfeff, 0xfeff, 1⟩, ⟨0xfff9, 0xfffb, 1⟩, ⟨0x10d69, 0x10d6d, 1⟩, ⟨0x10efa, 0x10eff, 1⟩,
   ⟨0x11241, 0x11241, 1⟩, ⟨0x113bb, 0x113c0, 1⟩, ⟨0x113ce, 0x113d2, 2⟩, ⟨0x113e1, 0x113e2, 1⟩,
   ⟨0x11b60, 0x11b62, 2⟩, ⟨0x11b63, 0x11b64, 1⟩, ⟨0x11b66, 0x11b66, 1⟩, ⟨0x11f00, 0x11f01, 1⟩,
   ⟨0x11f36, 0x11f3a, 1⟩, ⟨0x11f40, 0x11f42, 2⟩, ⟨0x11f5a, 0x11f5a, 1⟩, ⟨0x13430, 0x13440, 1⟩,
   ⟨0x13447, 0x13455, 1⟩, ⟨0x1611e, 0x16129, 1⟩, ⟨0x1612d, 0x1612f, 1⟩, ⟨0x1bca0, 0x1bca3, 1⟩,
   ⟨0x1d173, 0x1d17a, 1⟩, ⟨0x1e08f, 0x1e08f, 1⟩, ⟨0x1e4ec, 0x1e4ef, 1⟩, ⟨0x1e5ee, 0x1e5ef, 1⟩,
   ⟨0x1e6e3, 0x1e6e3, 1⟩, ⟨0x1e6e6, 0x1e6e6, 1⟩, ⟨0x1e6ee, 0x1e6ef, 1⟩, ⟨0x1e6f5, 0x1e6f5, 1⟩,
   ⟨0x1e94b, 0x1e94b, 1⟩, ⟨0xe0001, 0xe0001, 1⟩, ⟨0xe0020, 0xe007f, 1⟩]

/-- Whether letters join across a character. -/
def isTransparent (c : Char) : Bool :=
  Run.anyHas transparentRuns c || isInlineMark c && c ≠ Char.ofNat 0x1171e

end Noticeboard.Text
