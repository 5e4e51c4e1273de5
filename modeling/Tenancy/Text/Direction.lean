import Tenancy.Text.Mark

/-! The direction of writing. A label keeps its order beside text of the other direction if its
first character has a direction, the others fit it, and it ends in a letter or a number. -/
namespace Tenancy

/-- How a character takes part in the direction of a line. -/
inductive Direction where
  | leftToRight
  | rightToLeft
  | number
  | arabicNumber
  /-- A mark goes with the character before it. -/
  | attached
  | neutral
deriving DecidableEq

namespace Direction

def numberRanges : List (Nat × Nat) := [
  (0x30, 0x39), (0xB2, 0xB3), (0xB9, 0xB9), (0x6F0, 0x6F9), (0x2070, 0x2070), (0x2074, 0x2079),
  (0x2080, 0x2089), (0x2488, 0x249B), (0xFF10, 0xFF19), (0x102E1, 0x102FB), (0x1D7CE, 0x1D7FF),
  (0x1F100, 0x1F10A), (0x1FBF0, 0x1FBF9)]

/-- Digits and signs of numbers in scripts that are written from right to left. -/
def arabicNumberRanges : List (Nat × Nat) := [
  (0x600, 0x605), (0x660, 0x669), (0x66B, 0x66C), (0x6DD, 0x6DD), (0x890, 0x891), (0x8E2, 0x8E2),
  (0x10D30, 0x10D39), (0x10E60, 0x10E7E)]

/-- Letters and signs of scripts that are written from right to left. -/
def rightToLeftRanges : List (Nat × Nat) := [
  (0x5BE, 0x5F4), (0x608, 0x608), (0x60B, 0x60B), (0x60D, 0x60D), (0x61B, 0x64A), (0x66D, 0x6D5),
  (0x6E5, 0x6E6), (0x6EE, 0x7F5), (0x7FA, 0x8C9), (0x200F, 0x200F), (0xFB1D, 0xFB28),
  (0xFB2A, 0xFBC2), (0xFBD3, 0xFD3D), (0xFD50, 0xFD8F), (0xFD92, 0xFDC7), (0xFDF0, 0xFDFC),
  (0xFE70, 0xFEFC), (0x10800, 0x1091B), (0x10920, 0x10B35), (0x10B40, 0x10D65), (0x10D6F, 0x10EC7),
  (0x10F00, 0x10FF6), (0x1E800, 0x1EEBB)]

/-- Signs that follow the direction around them. -/
def neutralRanges : List (Nat × Nat) := [
  (0x20, 0x40), (0x5B, 0x60), (0x7B, 0xA9), (0xAB, 0xB4), (0xB6, 0xB8), (0xBB, 0xBF), (0xD7, 0xD7),
  (0xF7, 0xF7), (0x2B9, 0x2BA), (0x2C2, 0x2CF), (0x2D2, 0x2DF), (0x2E5, 0x2ED), (0x2EF, 0x2FF),
  (0x374, 0x375), (0x37E, 0x37E), (0x384, 0x385), (0x387, 0x387), (0x3F6, 0x3F6), (0x58A, 0x7F9),
  (0x9F2, 0x9F3), (0x9FB, 0x9FB), (0xAF1, 0xAF1), (0xBF3, 0xBFA), (0xC78, 0xC7E), (0xE3F, 0xE3F),
  (0xF3A, 0xF3D), (0x1390, 0x1399), (0x1400, 0x1400), (0x1680, 0x1680), (0x169B, 0x169C),
  (0x17DB, 0x17DB), (0x17F0, 0x180E), (0x1940, 0x1945), (0x19DE, 0x19FF), (0x1FBD, 0x1FBD),
  (0x1FBF, 0x1FC1), (0x1FCD, 0x1FCF), (0x1FDD, 0x1FDF), (0x1FED, 0x1FEF), (0x1FFD, 0x200D),
  (0x2010, 0x206F), (0x207A, 0x207E), (0x208A, 0x208E), (0x20A0, 0x2101), (0x2103, 0x2106),
  (0x2108, 0x2109), (0x2114, 0x2114), (0x2116, 0x2118), (0x211E, 0x2123), (0x2125, 0x2125),
  (0x2127, 0x2127), (0x2129, 0x2129), (0x212E, 0x212E), (0x213A, 0x213B), (0x2140, 0x2144),
  (0x214A, 0x214D), (0x2150, 0x215F), (0x2189, 0x2335), (0x237B, 0x2394), (0x2396, 0x2487),
  (0x24EA, 0x26AB), (0x26AD, 0x27FF), (0x2900, 0x2BFF), (0x2CE5, 0x2CEA), (0x2CF9, 0x2CFF),
  (0x2E00, 0x3004), (0x3008, 0x3020), (0x3030, 0x3030), (0x3036, 0x3037), (0x303D, 0x303F),
  (0x309B, 0x309C), (0x30A0, 0x30A0), (0x30FB, 0x30FB), (0x31C0, 0x31EF), (0x321D, 0x321E),
  (0x3250, 0x325F), (0x327C, 0x327E), (0x32B1, 0x32BF), (0x32CC, 0x32CF), (0x3377, 0x337A),
  (0x33DE, 0x33DF), (0x33FF, 0x33FF), (0x4DC0, 0x4DFF), (0xA490, 0xA4C6), (0xA60D, 0xA60F),
  (0xA673, 0xA67F), (0xA700, 0xA721), (0xA788, 0xA788), (0xA828, 0xA82B), (0xA838, 0xA839),
  (0xA874, 0xA877), (0xAB6A, 0xAB6B), (0xFB29, 0xFF20), (0xFF3B, 0xFF40), (0xFF5B, 0xFF65),
  (0xFFE0, 0xFFFD), (0x10101, 0x10101), (0x10140, 0x1018C), (0x10190, 0x101A0), (0x1091F, 0x10ED8),
  (0x11052, 0x11065), (0x11660, 0x1166C), (0x11FD5, 0x11FF1), (0x16FE2, 0x16FE2),
  (0x1BCA0, 0x1CCEF), (0x1CCFA, 0x1CEF0), (0x1D173, 0x1D17A), (0x1D1E9, 0x1D245),
  (0x1D300, 0x1D356), (0x1D6DB, 0x1D6DB), (0x1D715, 0x1D715), (0x1D74F, 0x1D74F),
  (0x1D789, 0x1D789), (0x1D7C3, 0x1D7C3), (0x1E2FF, 0x1E2FF), (0x1EEF0, 0x1F10F),
  (0x1F12F, 0x1F12F), (0x1F16A, 0x1F16F), (0x1F1AD, 0x1F1AD), (0x1F260, 0x1FBFA),
  (0xE0001, 0xE007F)]

/-- The kinds of characters are looked up in turn: later ranges run over characters of the kinds
before them. -/
def ofChar (c : Char) : Direction :=
  if isAttached c then .attached
  else if inRanges arabicNumberRanges c then .arabicNumber
  else if inRanges numberRanges c then .number
  else if inRanges rightToLeftRanges c then .rightToLeft
  else if inRanges neutralRanges c then .neutral
  else .leftToRight

/-- Whether text holds characters for which a line runs from right to left. -/
def runsFromRight (text : List Char) : Bool :=
  text.any fun c => ofChar c = .rightToLeft || ofChar c = .arabicNumber

/-- Whether a label keeps its order in a name with parts from right to left. The two kinds of numbers
do not go together in one label. -/
def isKept (label : List Char) : Bool :=
  let directions := label.map ofChar
  let last := directions.reverse.find? (· ≠ .attached)
  match directions with
  | [] => true
  | .leftToRight :: _ =>
    directions.all (fun d => d ≠ .rightToLeft && d ≠ .arabicNumber)
      && last.any (fun d => d = .leftToRight || d = .number)
  | .rightToLeft :: _ =>
    directions.all (· ≠ .leftToRight)
      && last.any (fun d => d = .rightToLeft || d = .number || d = .arabicNumber)
      && !(directions.contains .number && directions.contains .arabicNumber)
  | _ => false

end Direction
end Tenancy
