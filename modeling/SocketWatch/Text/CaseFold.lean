namespace SocketWatch.Text

/-- Characters `first`, `first + step`, … up to `last` that fold alike: the first of them folds to
`target`, and another one to the characters as far away from those as it is from the first. -/
structure FoldRange where
  first : Nat
  last : Nat
  step : Nat
  target : List Nat
deriving Inhabited

def foldRanges : Array FoldRange := #[
  ⟨0x41, 0x5A, 1, [0x61]⟩, ⟨0xB5, 0xB5, 1, [0x3BC]⟩, ⟨0xC0, 0xD6, 1, [0xE0]⟩,
  ⟨0xD8, 0xDE, 1, [0xF8]⟩, ⟨0xDF, 0xDF, 1, [0x73, 0x73]⟩, ⟨0x100, 0x12E, 2, [0x101]⟩,
  ⟨0x130, 0x130, 1, [0x69, 0x307]⟩, ⟨0x132, 0x136, 2, [0x133]⟩, ⟨0x139, 0x147, 2, [0x13A]⟩,
  ⟨0x149, 0x149, 1, [0x2BC, 0x6E]⟩, ⟨0x14A, 0x176, 2, [0x14B]⟩, ⟨0x178, 0x178, 1, [0xFF]⟩,
  ⟨0x179, 0x17D, 2, [0x17A]⟩, ⟨0x17F, 0x17F, 1, [0x73]⟩, ⟨0x181, 0x181, 1, [0x253]⟩,
  ⟨0x182, 0x184, 2, [0x183]⟩, ⟨0x186, 0x186, 1, [0x254]⟩, ⟨0x187, 0x187, 1, [0x188]⟩,
  ⟨0x189, 0x18A, 1, [0x256]⟩, ⟨0x18B, 0x18B, 1, [0x18C]⟩, ⟨0x18E, 0x18E, 1, [0x1DD]⟩,
  ⟨0x18F, 0x18F, 1, [0x259]⟩, ⟨0x190, 0x190, 1, [0x25B]⟩, ⟨0x191, 0x191, 1, [0x192]⟩,
  ⟨0x193, 0x193, 1, [0x260]⟩, ⟨0x194, 0x194, 1, [0x263]⟩, ⟨0x196, 0x196, 1, [0x269]⟩,
  ⟨0x197, 0x197, 1, [0x268]⟩, ⟨0x198, 0x198, 1, [0x199]⟩, ⟨0x19C, 0x19C, 1, [0x26F]⟩,
  ⟨0x19D, 0x19D, 1, [0x272]⟩, ⟨0x19F, 0x19F, 1, [0x275]⟩, ⟨0x1A0, 0x1A4, 2, [0x1A1]⟩,
  ⟨0x1A6, 0x1A6, 1, [0x280]⟩, ⟨0x1A7, 0x1A7, 1, [0x1A8]⟩, ⟨0x1A9, 0x1A9, 1, [0x283]⟩,
  ⟨0x1AC, 0x1AC, 1, [0x1AD]⟩, ⟨0x1AE, 0x1AE, 1, [0x288]⟩, ⟨0x1AF, 0x1AF, 1, [0x1B0]⟩,
  ⟨0x1B1, 0x1B2, 1, [0x28A]⟩, ⟨0x1B3, 0x1B5, 2, [0x1B4]⟩, ⟨0x1B7, 0x1B7, 1, [0x292]⟩,
  ⟨0x1B8, 0x1B8, 1, [0x1B9]⟩, ⟨0x1BC, 0x1BC, 1, [0x1BD]⟩, ⟨0x1C4, 0x1C4, 1, [0x1C6]⟩,
  ⟨0x1C5, 0x1C5, 1, [0x1C6]⟩, ⟨0x1C7, 0x1C7, 1, [0x1C9]⟩, ⟨0x1C8, 0x1C8, 1, [0x1C9]⟩,
  ⟨0x1CA, 0x1CA, 1, [0x1CC]⟩, ⟨0x1CB, 0x1DB, 2, [0x1CC]⟩, ⟨0x1DE, 0x1EE, 2, [0x1DF]⟩,
  ⟨0x1F0, 0x1F0, 1, [0x6A, 0x30C]⟩, ⟨0x1F1, 0x1F1, 1, [0x1F3]⟩, ⟨0x1F2, 0x1F4, 2, [0x1F3]⟩,
  ⟨0x1F6, 0x1F6, 1, [0x195]⟩, ⟨0x1F7, 0x1F7, 1, [0x1BF]⟩, ⟨0x1F8, 0x21E, 2, [0x1F9]⟩,
  ⟨0x220, 0x220, 1, [0x19E]⟩, ⟨0x222, 0x232, 2, [0x223]⟩, ⟨0x23A, 0x23A, 1, [0x2C65]⟩,
  ⟨0x23B, 0x23B, 1, [0x23C]⟩, ⟨0x23D, 0x23D, 1, [0x19A]⟩, ⟨0x23E, 0x23E, 1, [0x2C66]⟩,
  ⟨0x241, 0x241, 1, [0x242]⟩, ⟨0x243, 0x243, 1, [0x180]⟩, ⟨0x244, 0x244, 1, [0x289]⟩,
  ⟨0x245, 0x245, 1, [0x28C]⟩, ⟨0x246, 0x24E, 2, [0x247]⟩, ⟨0x345, 0x345, 1, [0x3B9]⟩,
  ⟨0x370, 0x372, 2, [0x371]⟩, ⟨0x376, 0x376, 1, [0x377]⟩, ⟨0x37F, 0x37F, 1, [0x3F3]⟩,
  ⟨0x386, 0x386, 1, [0x3AC]⟩, ⟨0x388, 0x38A, 1, [0x3AD]⟩, ⟨0x38C, 0x38C, 1, [0x3CC]⟩,
  ⟨0x38E, 0x38F, 1, [0x3CD]⟩, ⟨0x390, 0x390, 1, [0x3B9, 0x308, 0x301]⟩, ⟨0x391, 0x3A1, 1, [0x3B1]⟩,
  ⟨0x3A3, 0x3AB, 1, [0x3C3]⟩, ⟨0x3B0, 0x3B0, 1, [0x3C5, 0x308, 0x301]⟩, ⟨0x3C2, 0x3C2, 1, [0x3C3]⟩,
  ⟨0x3CF, 0x3CF, 1, [0x3D7]⟩, ⟨0x3D0, 0x3D0, 1, [0x3B2]⟩, ⟨0x3D1, 0x3D1, 1, [0x3B8]⟩,
  ⟨0x3D5, 0x3D5, 1, [0x3C6]⟩, ⟨0x3D6, 0x3D6, 1, [0x3C0]⟩, ⟨0x3D8, 0x3EE, 2, [0x3D9]⟩,
  ⟨0x3F0, 0x3F0, 1, [0x3BA]⟩, ⟨0x3F1, 0x3F1, 1, [0x3C1]⟩, ⟨0x3F4, 0x3F4, 1, [0x3B8]⟩,
  ⟨0x3F5, 0x3F5, 1, [0x3B5]⟩, ⟨0x3F7, 0x3F7, 1, [0x3F8]⟩, ⟨0x3F9, 0x3F9, 1, [0x3F2]⟩,
  ⟨0x3FA, 0x3FA, 1, [0x3FB]⟩, ⟨0x3FD, 0x3FF, 1, [0x37B]⟩, ⟨0x400, 0x40F, 1, [0x450]⟩,
  ⟨0x410, 0x42F, 1, [0x430]⟩, ⟨0x460, 0x480, 2, [0x461]⟩, ⟨0x48A, 0x4BE, 2, [0x48B]⟩,
  ⟨0x4C0, 0x4C0, 1, [0x4CF]⟩, ⟨0x4C1, 0x4CD, 2, [0x4C2]⟩, ⟨0x4D0, 0x52E, 2, [0x4D1]⟩,
  ⟨0x531, 0x556, 1, [0x561]⟩, ⟨0x587, 0x587, 1, [0x565, 0x582]⟩, ⟨0x10A0, 0x10C5, 1, [0x2D00]⟩,
  ⟨0x10C7, 0x10C7, 1, [0x2D27]⟩, ⟨0x10CD, 0x10CD, 1, [0x2D2D]⟩, ⟨0x13F8, 0x13FD, 1, [0x13F0]⟩,
  ⟨0x1C80, 0x1C80, 1, [0x432]⟩, ⟨0x1C81, 0x1C81, 1, [0x434]⟩, ⟨0x1C82, 0x1C82, 1, [0x43E]⟩,
  ⟨0x1C83, 0x1C84, 1, [0x441]⟩, ⟨0x1C85, 0x1C85, 1, [0x442]⟩, ⟨0x1C86, 0x1C86, 1, [0x44A]⟩,
  ⟨0x1C87, 0x1C87, 1, [0x463]⟩, ⟨0x1C88, 0x1C88, 1, [0xA64B]⟩, ⟨0x1C89, 0x1C89, 1, [0x1C8A]⟩,
  ⟨0x1C90, 0x1CBA, 1, [0x10D0]⟩, ⟨0x1CBD, 0x1CBF, 1, [0x10FD]⟩, ⟨0x1E00, 0x1E94, 2, [0x1E01]⟩,
  ⟨0x1E96, 0x1E96, 1, [0x68, 0x331]⟩, ⟨0x1E97, 0x1E97, 1, [0x74, 0x308]⟩,
  ⟨0x1E98, 0x1E98, 1, [0x77, 0x30A]⟩, ⟨0x1E99, 0x1E99, 1, [0x79, 0x30A]⟩,
  ⟨0x1E9A, 0x1E9A, 1, [0x61, 0x2BE]⟩, ⟨0x1E9B, 0x1E9B, 1, [0x1E61]⟩,
  ⟨0x1E9E, 0x1E9E, 1, [0x73, 0x73]⟩, ⟨0x1EA0, 0x1EFE, 2, [0x1EA1]⟩, ⟨0x1F08, 0x1F0F, 1, [0x1F00]⟩,
  ⟨0x1F18, 0x1F1D, 1, [0x1F10]⟩, ⟨0x1F28, 0x1F2F, 1, [0x1F20]⟩, ⟨0x1F38, 0x1F3F, 1, [0x1F30]⟩,
  ⟨0x1F48, 0x1F4D, 1, [0x1F40]⟩, ⟨0x1F50, 0x1F50, 1, [0x3C5, 0x313]⟩,
  ⟨0x1F52, 0x1F52, 1, [0x3C5, 0x313, 0x300]⟩, ⟨0x1F54, 0x1F54, 1, [0x3C5, 0x313, 0x301]⟩,
  ⟨0x1F56, 0x1F56, 1, [0x3C5, 0x313, 0x342]⟩, ⟨0x1F59, 0x1F5F, 2, [0x1F51]⟩,
  ⟨0x1F68, 0x1F6F, 1, [0x1F60]⟩, ⟨0x1F80, 0x1F80, 1, [0x1F00, 0x3B9]⟩,
  ⟨0x1F81, 0x1F81, 1, [0x1F01, 0x3B9]⟩, ⟨0x1F82, 0x1F82, 1, [0x1F02, 0x3B9]⟩,
  ⟨0x1F83, 0x1F83, 1, [0x1F03, 0x3B9]⟩, ⟨0x1F84, 0x1F84, 1, [0x1F04, 0x3B9]⟩,
  ⟨0x1F85, 0x1F85, 1, [0x1F05, 0x3B9]⟩, ⟨0x1F86, 0x1F86, 1, [0x1F06, 0x3B9]⟩,
  ⟨0x1F87, 0x1F87, 1, [0x1F07, 0x3B9]⟩, ⟨0x1F88, 0x1F88, 1, [0x1F00, 0x3B9]⟩,
  ⟨0x1F89, 0x1F89, 1, [0x1F01, 0x3B9]⟩, ⟨0x1F8A, 0x1F8A, 1, [0x1F02, 0x3B9]⟩,
  ⟨0x1F8B, 0x1F8B, 1, [0x1F03, 0x3B9]⟩, ⟨0x1F8C, 0x1F8C, 1, [0x1F04, 0x3B9]⟩,
  ⟨0x1F8D, 0x1F8D, 1, [0x1F05, 0x3B9]⟩, ⟨0x1F8E, 0x1F8E, 1, [0x1F06, 0x3B9]⟩,
  ⟨0x1F8F, 0x1F8F, 1, [0x1F07, 0x3B9]⟩, ⟨0x1F90, 0x1F90, 1, [0x1F20, 0x3B9]⟩,
  ⟨0x1F91, 0x1F91, 1, [0x1F21, 0x3B9]⟩, ⟨0x1F92, 0x1F92, 1, [0x1F22, 0x3B9]⟩,
  ⟨0x1F93, 0x1F93, 1, [0x1F23, 0x3B9]⟩, ⟨0x1F94, 0x1F94, 1, [0x1F24, 0x3B9]⟩,
  ⟨0x1F95, 0x1F95, 1, [0x1F25, 0x3B9]⟩, ⟨0x1F96, 0x1F96, 1, [0x1F26, 0x3B9]⟩,
  ⟨0x1F97, 0x1F97, 1, [0x1F27, 0x3B9]⟩, ⟨0x1F98, 0x1F98, 1, [0x1F20, 0x3B9]⟩,
  ⟨0x1F99, 0x1F99, 1, [0x1F21, 0x3B9]⟩, ⟨0x1F9A, 0x1F9A, 1, [0x1F22, 0x3B9]⟩,
  ⟨0x1F9B, 0x1F9B, 1, [0x1F23, 0x3B9]⟩, ⟨0x1F9C, 0x1F9C, 1, [0x1F24, 0x3B9]⟩,
  ⟨0x1F9D, 0x1F9D, 1, [0x1F25, 0x3B9]⟩, ⟨0x1F9E, 0x1F9E, 1, [0x1F26, 0x3B9]⟩,
  ⟨0x1F9F, 0x1F9F, 1, [0x1F27, 0x3B9]⟩, ⟨0x1FA0, 0x1FA0, 1, [0x1F60, 0x3B9]⟩,
  ⟨0x1FA1, 0x1FA1, 1, [0x1F61, 0x3B9]⟩, ⟨0x1FA2, 0x1FA2, 1, [0x1F62, 0x3B9]⟩,
  ⟨0x1FA3, 0x1FA3, 1, [0x1F63, 0x3B9]⟩, ⟨0x1FA4, 0x1FA4, 1, [0x1F64, 0x3B9]⟩,
  ⟨0x1FA5, 0x1FA5, 1, [0x1F65, 0x3B9]⟩, ⟨0x1FA6, 0x1FA6, 1, [0x1F66, 0x3B9]⟩,
  ⟨0x1FA7, 0x1FA7, 1, [0x1F67, 0x3B9]⟩, ⟨0x1FA8, 0x1FA8, 1, [0x1F60, 0x3B9]⟩,
  ⟨0x1FA9, 0x1FA9, 1, [0x1F61, 0x3B9]⟩, ⟨0x1FAA, 0x1FAA, 1, [0x1F62, 0x3B9]⟩,
  ⟨0x1FAB, 0x1FAB, 1, [0x1F63, 0x3B9]⟩, ⟨0x1FAC, 0x1FAC, 1, [0x1F64, 0x3B9]⟩,
  ⟨0x1FAD, 0x1FAD, 1, [0x1F65, 0x3B9]⟩, ⟨0x1FAE, 0x1FAE, 1, [0x1F66, 0x3B9]⟩,
  ⟨0x1FAF, 0x1FAF, 1, [0x1F67, 0x3B9]⟩, ⟨0x1FB2, 0x1FB2, 1, [0x1F70, 0x3B9]⟩,
  ⟨0x1FB3, 0x1FB3, 1, [0x3B1, 0x3B9]⟩, ⟨0x1FB4, 0x1FB4, 1, [0x3AC, 0x3B9]⟩,
  ⟨0x1FB6, 0x1FB6, 1, [0x3B1, 0x342]⟩, ⟨0x1FB7, 0x1FB7, 1, [0x3B1, 0x342, 0x3B9]⟩,
  ⟨0x1FB8, 0x1FB9, 1, [0x1FB0]⟩, ⟨0x1FBA, 0x1FBB, 1, [0x1F70]⟩, ⟨0x1FBC, 0x1FBC, 1, [0x3B1, 0x3B9]⟩,
  ⟨0x1FBE, 0x1FBE, 1, [0x3B9]⟩, ⟨0x1FC2, 0x1FC2, 1, [0x1F74, 0x3B9]⟩,
  ⟨0x1FC3, 0x1FC3, 1, [0x3B7, 0x3B9]⟩, ⟨0x1FC4, 0x1FC4, 1, [0x3AE, 0x3B9]⟩,
  ⟨0x1FC6, 0x1FC6, 1, [0x3B7, 0x342]⟩, ⟨0x1FC7, 0x1FC7, 1, [0x3B7, 0x342, 0x3B9]⟩,
  ⟨0x1FC8, 0x1FCB, 1, [0x1F72]⟩, ⟨0x1FCC, 0x1FCC, 1, [0x3B7, 0x3B9]⟩,
  ⟨0x1FD2, 0x1FD2, 1, [0x3B9, 0x308, 0x300]⟩, ⟨0x1FD3, 0x1FD3, 1, [0x3B9, 0x308, 0x301]⟩,
  ⟨0x1FD6, 0x1FD6, 1, [0x3B9, 0x342]⟩, ⟨0x1FD7, 0x1FD7, 1, [0x3B9, 0x308, 0x342]⟩,
  ⟨0x1FD8, 0x1FD9, 1, [0x1FD0]⟩, ⟨0x1FDA, 0x1FDB, 1, [0x1F76]⟩,
  ⟨0x1FE2, 0x1FE2, 1, [0x3C5, 0x308, 0x300]⟩, ⟨0x1FE3, 0x1FE3, 1, [0x3C5, 0x308, 0x301]⟩,
  ⟨0x1FE4, 0x1FE4, 1, [0x3C1, 0x313]⟩, ⟨0x1FE6, 0x1FE6, 1, [0x3C5, 0x342]⟩,
  ⟨0x1FE7, 0x1FE7, 1, [0x3C5, 0x308, 0x342]⟩, ⟨0x1FE8, 0x1FE9, 1, [0x1FE0]⟩,
  ⟨0x1FEA, 0x1FEB, 1, [0x1F7A]⟩, ⟨0x1FEC, 0x1FEC, 1, [0x1FE5]⟩,
  ⟨0x1FF2, 0x1FF2, 1, [0x1F7C, 0x3B9]⟩, ⟨0x1FF3, 0x1FF3, 1, [0x3C9, 0x3B9]⟩,
  ⟨0x1FF4, 0x1FF4, 1, [0x3CE, 0x3B9]⟩, ⟨0x1FF6, 0x1FF6, 1, [0x3C9, 0x342]⟩,
  ⟨0x1FF7, 0x1FF7, 1, [0x3C9, 0x342, 0x3B9]⟩, ⟨0x1FF8, 0x1FF9, 1, [0x1F78]⟩,
  ⟨0x1FFA, 0x1FFB, 1, [0x1F7C]⟩, ⟨0x1FFC, 0x1FFC, 1, [0x3C9, 0x3B9]⟩, ⟨0x2126, 0x2126, 1, [0x3C9]⟩,
  ⟨0x212A, 0x212A, 1, [0x6B]⟩, ⟨0x212B, 0x212B, 1, [0xE5]⟩, ⟨0x2132, 0x2132, 1, [0x214E]⟩,
  ⟨0x2160, 0x216F, 1, [0x2170]⟩, ⟨0x2183, 0x2183, 1, [0x2184]⟩, ⟨0x24B6, 0x24CF, 1, [0x24D0]⟩,
  ⟨0x2C00, 0x2C2F, 1, [0x2C30]⟩, ⟨0x2C60, 0x2C60, 1, [0x2C61]⟩, ⟨0x2C62, 0x2C62, 1, [0x26B]⟩,
  ⟨0x2C63, 0x2C63, 1, [0x1D7D]⟩, ⟨0x2C64, 0x2C64, 1, [0x27D]⟩, ⟨0x2C67, 0x2C6B, 2, [0x2C68]⟩,
  ⟨0x2C6D, 0x2C6D, 1, [0x251]⟩, ⟨0x2C6E, 0x2C6E, 1, [0x271]⟩, ⟨0x2C6F, 0x2C6F, 1, [0x250]⟩,
  ⟨0x2C70, 0x2C70, 1, [0x252]⟩, ⟨0x2C72, 0x2C72, 1, [0x2C73]⟩, ⟨0x2C75, 0x2C75, 1, [0x2C76]⟩,
  ⟨0x2C7E, 0x2C7F, 1, [0x23F]⟩, ⟨0x2C80, 0x2CE2, 2, [0x2C81]⟩, ⟨0x2CEB, 0x2CED, 2, [0x2CEC]⟩,
  ⟨0x2CF2, 0x2CF2, 1, [0x2CF3]⟩, ⟨0xA640, 0xA66C, 2, [0xA641]⟩, ⟨0xA680, 0xA69A, 2, [0xA681]⟩,
  ⟨0xA722, 0xA72E, 2, [0xA723]⟩, ⟨0xA732, 0xA76E, 2, [0xA733]⟩, ⟨0xA779, 0xA77B, 2, [0xA77A]⟩,
  ⟨0xA77D, 0xA77D, 1, [0x1D79]⟩, ⟨0xA77E, 0xA786, 2, [0xA77F]⟩, ⟨0xA78B, 0xA78B, 1, [0xA78C]⟩,
  ⟨0xA78D, 0xA78D, 1, [0x265]⟩, ⟨0xA790, 0xA792, 2, [0xA791]⟩, ⟨0xA796, 0xA7A8, 2, [0xA797]⟩,
  ⟨0xA7AA, 0xA7AA, 1, [0x266]⟩, ⟨0xA7AB, 0xA7AB, 1, [0x25C]⟩, ⟨0xA7AC, 0xA7AC, 1, [0x261]⟩,
  ⟨0xA7AD, 0xA7AD, 1, [0x26C]⟩, ⟨0xA7AE, 0xA7AE, 1, [0x26A]⟩, ⟨0xA7B0, 0xA7B0, 1, [0x29E]⟩,
  ⟨0xA7B1, 0xA7B1, 1, [0x287]⟩, ⟨0xA7B2, 0xA7B2, 1, [0x29D]⟩, ⟨0xA7B3, 0xA7B3, 1, [0xAB53]⟩,
  ⟨0xA7B4, 0xA7C2, 2, [0xA7B5]⟩, ⟨0xA7C4, 0xA7C4, 1, [0xA794]⟩, ⟨0xA7C5, 0xA7C5, 1, [0x282]⟩,
  ⟨0xA7C6, 0xA7C6, 1, [0x1D8E]⟩, ⟨0xA7C7, 0xA7C9, 2, [0xA7C8]⟩, ⟨0xA7CB, 0xA7CB, 1, [0x264]⟩,
  ⟨0xA7CC, 0xA7CC, 1, [0xA7CD]⟩, ⟨0xA7D0, 0xA7D0, 1, [0xA7D1]⟩, ⟨0xA7D6, 0xA7DA, 2, [0xA7D7]⟩,
  ⟨0xA7DC, 0xA7DC, 1, [0x19B]⟩, ⟨0xA7F5, 0xA7F5, 1, [0xA7F6]⟩, ⟨0xAB70, 0xABBF, 1, [0x13A0]⟩,
  ⟨0xFB00, 0xFB00, 1, [0x66, 0x66]⟩, ⟨0xFB01, 0xFB01, 1, [0x66, 0x69]⟩,
  ⟨0xFB02, 0xFB02, 1, [0x66, 0x6C]⟩, ⟨0xFB03, 0xFB03, 1, [0x66, 0x66, 0x69]⟩,
  ⟨0xFB04, 0xFB04, 1, [0x66, 0x66, 0x6C]⟩, ⟨0xFB05, 0xFB05, 1, [0x73, 0x74]⟩,
  ⟨0xFB06, 0xFB06, 1, [0x73, 0x74]⟩, ⟨0xFB13, 0xFB13, 1, [0x574, 0x576]⟩,
  ⟨0xFB14, 0xFB14, 1, [0x574, 0x565]⟩, ⟨0xFB15, 0xFB15, 1, [0x574, 0x56B]⟩,
  ⟨0xFB16, 0xFB16, 1, [0x57E, 0x576]⟩, ⟨0xFB17, 0xFB17, 1, [0x574, 0x56D]⟩,
  ⟨0xFF21, 0xFF3A, 1, [0xFF41]⟩, ⟨0x10400, 0x10427, 1, [0x10428]⟩, ⟨0x104B0, 0x104D3, 1, [0x104D8]⟩,
  ⟨0x10570, 0x1057A, 1, [0x10597]⟩, ⟨0x1057C, 0x1058A, 1, [0x105A3]⟩,
  ⟨0x1058C, 0x10592, 1, [0x105B3]⟩, ⟨0x10594, 0x10595, 1, [0x105BB]⟩,
  ⟨0x10C80, 0x10CB2, 1, [0x10CC0]⟩, ⟨0x10D50, 0x10D65, 1, [0x10D70]⟩,
  ⟨0x118A0, 0x118BF, 1, [0x118C0]⟩, ⟨0x16E40, 0x16E5F, 1, [0x16E60]⟩,
  ⟨0x1E900, 0x1E921, 1, [0x1E922]⟩]

/-- Looks for the last range that starts at `n` or before it, in strides that halve from one to the
next. `place` is such a range, or the first one of the table. -/
def lastRange (n : Nat) : (strides : List Nat) → (place : Nat) → Nat
  | [], place => place
  | stride :: strides, place =>
    if h : place + stride < foldRanges.size then
      if foldRanges[place + stride].first ≤ n then lastRange n strides (place + stride)
      else lastRange n strides place
    else lastRange n strides place

def FoldRange.fold? (range : FoldRange) (n : Nat) : Option (List Char) :=
  if range.first ≤ n ∧ n ≤ range.last ∧ (n - range.first) % range.step = 0 then
    some (range.target.map fun t => Char.ofNat (t + (n - range.first)))
  else none

def foldChar (c : Char) : List Char :=
  if c.toNat < 128 then
    if 'A' ≤ c ∧ c ≤ 'Z' then [Char.ofNat (c.toNat + 32)] else [c]
  else
    match foldRanges[lastRange c.toNat [256, 128, 64, 32, 16, 8, 4, 2, 1] 0]? with
    | some range => (range.fold? c.toNat).getD [c]
    | none => [c]

def caseFold (text : String) : String :=
  text.foldl (fun done c => (foldChar c).foldl String.push done) ""

theorem toList_caseFold (text : String) :
    (caseFold text).toList = text.toList.flatMap foldChar := by
  have push : ∀ (l : List Char) (done : String), (l.foldl String.push done).toList =
      done.toList ++ l := by
    intro l
    induction l with
    | nil => simp
    | cons c l ih => intro done; simp [ih]
  suffices h : ∀ (l : List Char) (done : String),
      (l.foldl (fun done c => (foldChar c).foldl String.push done) done).toList =
        done.toList ++ l.flatMap foldChar by
    simpa [caseFold, String.foldl_eq_foldl_toList] using h text.toList ""
  intro l
  induction l with
  | nil => simp
  | cons c l ih => intro done; simp [ih, push]

theorem caseFold_eq {text folded : String} (h : text.toList.flatMap foldChar = folded.toList) :
    caseFold text = folded := by
  apply String.toList_injective
  rw [toList_caseFold, h]

theorem caseFold_ofList (cs : List Char) :
    caseFold (String.ofList cs) = String.ofList (cs.flatMap foldChar) := by
  apply caseFold_eq
  simp

end SocketWatch.Text
