import MatchCriteria.Unicode.CaseRun

/-!
# Table of simple case folding

The code points that fold to another one, as runs.
-/

namespace MatchCriteria.Unicode

/-- Where each code point that is not its own case folding folds to. -/
def foldingTable : List CaseRun := [
  ⟨0x41, 0x5A, 1, 0x20⟩, ⟨0xB5, 0xB5, 1, 0x307⟩, ⟨0xC0, 0xD6, 1, 0x20⟩, ⟨0xD8, 0xDE, 1, 0x20⟩,
  ⟨0x100, 0x12E, 2, 0x1⟩, ⟨0x132, 0x136, 2, 0x1⟩, ⟨0x139, 0x147, 2, 0x1⟩, ⟨0x14A, 0x176, 2, 0x1⟩,
  ⟨0x178, 0x178, 1, -0x79⟩, ⟨0x179, 0x17D, 2, 0x1⟩, ⟨0x17F, 0x17F, 1, -0x10C⟩,
  ⟨0x181, 0x181, 1, 0xD2⟩, ⟨0x182, 0x184, 2, 0x1⟩, ⟨0x186, 0x186, 1, 0xCE⟩,
  ⟨0x187, 0x187, 1, 0x1⟩, ⟨0x189, 0x18A, 1, 0xCD⟩, ⟨0x18B, 0x18B, 1, 0x1⟩,
  ⟨0x18E, 0x18E, 1, 0x4F⟩, ⟨0x18F, 0x18F, 1, 0xCA⟩, ⟨0x190, 0x190, 1, 0xCB⟩,
  ⟨0x191, 0x191, 1, 0x1⟩, ⟨0x193, 0x193, 1, 0xCD⟩, ⟨0x194, 0x194, 1, 0xCF⟩,
  ⟨0x196, 0x196, 1, 0xD3⟩, ⟨0x197, 0x197, 1, 0xD1⟩, ⟨0x198, 0x198, 1, 0x1⟩,
  ⟨0x19C, 0x19C, 1, 0xD3⟩, ⟨0x19D, 0x19D, 1, 0xD5⟩, ⟨0x19F, 0x19F, 1, 0xD6⟩,
  ⟨0x1A0, 0x1A4, 2, 0x1⟩, ⟨0x1A6, 0x1A6, 1, 0xDA⟩, ⟨0x1A7, 0x1A7, 1, 0x1⟩,
  ⟨0x1A9, 0x1A9, 1, 0xDA⟩, ⟨0x1AC, 0x1AC, 1, 0x1⟩, ⟨0x1AE, 0x1AE, 1, 0xDA⟩,
  ⟨0x1AF, 0x1AF, 1, 0x1⟩, ⟨0x1B1, 0x1B2, 1, 0xD9⟩, ⟨0x1B3, 0x1B5, 2, 0x1⟩,
  ⟨0x1B7, 0x1B7, 1, 0xDB⟩, ⟨0x1B8, 0x1B8, 1, 0x1⟩, ⟨0x1BC, 0x1BC, 1, 0x1⟩,
  ⟨0x1C4, 0x1C4, 1, 0x2⟩, ⟨0x1C5, 0x1C5, 1, 0x1⟩, ⟨0x1C7, 0x1C7, 1, 0x2⟩, ⟨0x1C8, 0x1C8, 1, 0x1⟩,
  ⟨0x1CA, 0x1CA, 1, 0x2⟩, ⟨0x1CB, 0x1DB, 2, 0x1⟩, ⟨0x1DE, 0x1EE, 2, 0x1⟩, ⟨0x1F1, 0x1F1, 1, 0x2⟩,
  ⟨0x1F2, 0x1F4, 2, 0x1⟩, ⟨0x1F6, 0x1F6, 1, -0x61⟩, ⟨0x1F7, 0x1F7, 1, -0x38⟩,
  ⟨0x1F8, 0x21E, 2, 0x1⟩, ⟨0x220, 0x220, 1, -0x82⟩, ⟨0x222, 0x232, 2, 0x1⟩,
  ⟨0x23A, 0x23A, 1, 0x2A2B⟩, ⟨0x23B, 0x23B, 1, 0x1⟩, ⟨0x23D, 0x23D, 1, -0xA3⟩,
  ⟨0x23E, 0x23E, 1, 0x2A28⟩, ⟨0x241, 0x241, 1, 0x1⟩, ⟨0x243, 0x243, 1, -0xC3⟩,
  ⟨0x244, 0x244, 1, 0x45⟩, ⟨0x245, 0x245, 1, 0x47⟩, ⟨0x246, 0x24E, 2, 0x1⟩,
  ⟨0x345, 0x345, 1, 0x74⟩, ⟨0x370, 0x372, 2, 0x1⟩, ⟨0x376, 0x376, 1, 0x1⟩,
  ⟨0x37F, 0x37F, 1, 0x74⟩, ⟨0x386, 0x386, 1, 0x26⟩, ⟨0x388, 0x38A, 1, 0x25⟩,
  ⟨0x38C, 0x38C, 1, 0x40⟩, ⟨0x38E, 0x38F, 1, 0x3F⟩, ⟨0x391, 0x3A1, 1, 0x20⟩,
  ⟨0x3A3, 0x3AB, 1, 0x20⟩, ⟨0x3C2, 0x3C2, 1, 0x1⟩, ⟨0x3CF, 0x3CF, 1, 0x8⟩,
  ⟨0x3D0, 0x3D0, 1, -0x1E⟩, ⟨0x3D1, 0x3D1, 1, -0x19⟩, ⟨0x3D5, 0x3D5, 1, -0xF⟩,
  ⟨0x3D6, 0x3D6, 1, -0x16⟩, ⟨0x3D8, 0x3EE, 2, 0x1⟩, ⟨0x3F0, 0x3F0, 1, -0x36⟩,
  ⟨0x3F1, 0x3F1, 1, -0x30⟩, ⟨0x3F4, 0x3F4, 1, -0x3C⟩, ⟨0x3F5, 0x3F5, 1, -0x40⟩,
  ⟨0x3F7, 0x3F7, 1, 0x1⟩, ⟨0x3F9, 0x3F9, 1, -0x7⟩, ⟨0x3FA, 0x3FA, 1, 0x1⟩,
  ⟨0x3FD, 0x3FF, 1, -0x82⟩, ⟨0x400, 0x40F, 1, 0x50⟩, ⟨0x410, 0x42F, 1, 0x20⟩,
  ⟨0x460, 0x480, 2, 0x1⟩, ⟨0x48A, 0x4BE, 2, 0x1⟩, ⟨0x4C0, 0x4C0, 1, 0xF⟩, ⟨0x4C1, 0x4CD, 2, 0x1⟩,
  ⟨0x4D0, 0x52E, 2, 0x1⟩, ⟨0x531, 0x556, 1, 0x30⟩, ⟨0x10A0, 0x10C5, 1, 0x1C60⟩,
  ⟨0x10C7, 0x10C7, 1, 0x1C60⟩, ⟨0x10CD, 0x10CD, 1, 0x1C60⟩, ⟨0x13F8, 0x13FD, 1, -0x8⟩,
  ⟨0x1C80, 0x1C80, 1, -0x184E⟩, ⟨0x1C81, 0x1C81, 1, -0x184D⟩, ⟨0x1C82, 0x1C82, 1, -0x1844⟩,
  ⟨0x1C83, 0x1C84, 1, -0x1842⟩, ⟨0x1C85, 0x1C85, 1, -0x1843⟩, ⟨0x1C86, 0x1C86, 1, -0x183C⟩,
  ⟨0x1C87, 0x1C87, 1, -0x1824⟩, ⟨0x1C88, 0x1C88, 1, 0x89C3⟩, ⟨0x1C89, 0x1C89, 1, 0x1⟩,
  ⟨0x1C90, 0x1CBA, 1, -0xBC0⟩, ⟨0x1CBD, 0x1CBF, 1, -0xBC0⟩, ⟨0x1E00, 0x1E94, 2, 0x1⟩,
  ⟨0x1E9B, 0x1E9B, 1, -0x3A⟩, ⟨0x1E9E, 0x1E9E, 1, -0x1DBF⟩, ⟨0x1EA0, 0x1EFE, 2, 0x1⟩,
  ⟨0x1F08, 0x1F0F, 1, -0x8⟩, ⟨0x1F18, 0x1F1D, 1, -0x8⟩, ⟨0x1F28, 0x1F2F, 1, -0x8⟩,
  ⟨0x1F38, 0x1F3F, 1, -0x8⟩, ⟨0x1F48, 0x1F4D, 1, -0x8⟩, ⟨0x1F59, 0x1F5F, 2, -0x8⟩,
  ⟨0x1F68, 0x1F6F, 1, -0x8⟩, ⟨0x1F88, 0x1F8F, 1, -0x8⟩, ⟨0x1F98, 0x1F9F, 1, -0x8⟩,
  ⟨0x1FA8, 0x1FAF, 1, -0x8⟩, ⟨0x1FB8, 0x1FB9, 1, -0x8⟩, ⟨0x1FBA, 0x1FBB, 1, -0x4A⟩,
  ⟨0x1FBC, 0x1FBC, 1, -0x9⟩, ⟨0x1FBE, 0x1FBE, 1, -0x1C05⟩, ⟨0x1FC8, 0x1FCB, 1, -0x56⟩,
  ⟨0x1FCC, 0x1FCC, 1, -0x9⟩, ⟨0x1FD3, 0x1FD3, 1, -0x1C43⟩, ⟨0x1FD8, 0x1FD9, 1, -0x8⟩,
  ⟨0x1FDA, 0x1FDB, 1, -0x64⟩, ⟨0x1FE3, 0x1FE3, 1, -0x1C33⟩, ⟨0x1FE8, 0x1FE9, 1, -0x8⟩,
  ⟨0x1FEA, 0x1FEB, 1, -0x70⟩, ⟨0x1FEC, 0x1FEC, 1, -0x7⟩, ⟨0x1FF8, 0x1FF9, 1, -0x80⟩,
  ⟨0x1FFA, 0x1FFB, 1, -0x7E⟩, ⟨0x1FFC, 0x1FFC, 1, -0x9⟩, ⟨0x2126, 0x2126, 1, -0x1D5D⟩,
  ⟨0x212A, 0x212A, 1, -0x20BF⟩, ⟨0x212B, 0x212B, 1, -0x2046⟩, ⟨0x2132, 0x2132, 1, 0x1C⟩,
  ⟨0x2160, 0x216F, 1, 0x10⟩, ⟨0x2183, 0x2183, 1, 0x1⟩, ⟨0x24B6, 0x24CF, 1, 0x1A⟩,
  ⟨0x2C00, 0x2C2F, 1, 0x30⟩, ⟨0x2C60, 0x2C60, 1, 0x1⟩, ⟨0x2C62, 0x2C62, 1, -0x29F7⟩,
  ⟨0x2C63, 0x2C63, 1, -0xEE6⟩, ⟨0x2C64, 0x2C64, 1, -0x29E7⟩, ⟨0x2C67, 0x2C6B, 2, 0x1⟩,
  ⟨0x2C6D, 0x2C6D, 1, -0x2A1C⟩, ⟨0x2C6E, 0x2C6E, 1, -0x29FD⟩, ⟨0x2C6F, 0x2C6F, 1, -0x2A1F⟩,
  ⟨0x2C70, 0x2C70, 1, -0x2A1E⟩, ⟨0x2C72, 0x2C72, 1, 0x1⟩, ⟨0x2C75, 0x2C75, 1, 0x1⟩,
  ⟨0x2C7E, 0x2C7F, 1, -0x2A3F⟩, ⟨0x2C80, 0x2CE2, 2, 0x1⟩, ⟨0x2CEB, 0x2CED, 2, 0x1⟩,
  ⟨0x2CF2, 0x2CF2, 1, 0x1⟩, ⟨0xA640, 0xA66C, 2, 0x1⟩, ⟨0xA680, 0xA69A, 2, 0x1⟩,
  ⟨0xA722, 0xA72E, 2, 0x1⟩, ⟨0xA732, 0xA76E, 2, 0x1⟩, ⟨0xA779, 0xA77B, 2, 0x1⟩,
  ⟨0xA77D, 0xA77D, 1, -0x8A04⟩, ⟨0xA77E, 0xA786, 2, 0x1⟩, ⟨0xA78B, 0xA78B, 1, 0x1⟩,
  ⟨0xA78D, 0xA78D, 1, -0xA528⟩, ⟨0xA790, 0xA792, 2, 0x1⟩, ⟨0xA796, 0xA7A8, 2, 0x1⟩,
  ⟨0xA7AA, 0xA7AA, 1, -0xA544⟩, ⟨0xA7AB, 0xA7AB, 1, -0xA54F⟩, ⟨0xA7AC, 0xA7AC, 1, -0xA54B⟩,
  ⟨0xA7AD, 0xA7AD, 1, -0xA541⟩, ⟨0xA7AE, 0xA7AE, 1, -0xA544⟩, ⟨0xA7B0, 0xA7B0, 1, -0xA512⟩,
  ⟨0xA7B1, 0xA7B1, 1, -0xA52A⟩, ⟨0xA7B2, 0xA7B2, 1, -0xA515⟩, ⟨0xA7B3, 0xA7B3, 1, 0x3A0⟩,
  ⟨0xA7B4, 0xA7C2, 2, 0x1⟩, ⟨0xA7C4, 0xA7C4, 1, -0x30⟩, ⟨0xA7C5, 0xA7C5, 1, -0xA543⟩,
  ⟨0xA7C6, 0xA7C6, 1, -0x8A38⟩, ⟨0xA7C7, 0xA7C9, 2, 0x1⟩, ⟨0xA7CB, 0xA7CB, 1, -0xA567⟩,
  ⟨0xA7CC, 0xA7CC, 1, 0x1⟩, ⟨0xA7D0, 0xA7D0, 1, 0x1⟩, ⟨0xA7D6, 0xA7DA, 2, 0x1⟩,
  ⟨0xA7DC, 0xA7DC, 1, -0xA641⟩, ⟨0xA7F5, 0xA7F5, 1, 0x1⟩, ⟨0xAB70, 0xABBF, 1, -0x97D0⟩,
  ⟨0xFB05, 0xFB05, 1, 0x1⟩, ⟨0xFF21, 0xFF3A, 1, 0x20⟩, ⟨0x10400, 0x10427, 1, 0x28⟩,
  ⟨0x104B0, 0x104D3, 1, 0x28⟩, ⟨0x10570, 0x1057A, 1, 0x27⟩, ⟨0x1057C, 0x1058A, 1, 0x27⟩,
  ⟨0x1058C, 0x10592, 1, 0x27⟩, ⟨0x10594, 0x10595, 1, 0x27⟩, ⟨0x10C80, 0x10CB2, 1, 0x40⟩,
  ⟨0x10D50, 0x10D65, 1, 0x20⟩, ⟨0x118A0, 0x118BF, 1, 0x20⟩, ⟨0x16E40, 0x16E5F, 1, 0x20⟩,
  ⟨0x1E900, 0x1E921, 1, 0x22⟩]

end MatchCriteria.Unicode
