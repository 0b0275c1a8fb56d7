import Parley.Text.CodeRanges

/-!
# Capitals outside ASCII

The small letters that capitals become in a domain name, and other characters that are replaced
run by run by characters at a fixed distance.
-/

namespace Parley.Url

/-- Characters that are replaced by those at a distance from them. -/
structure ShiftedRange where
  first : Nat
  last : Nat
  distance : Int

/-- The capitals of whole alphabets, and letters and digits in mathematical or full-width form. -/
def shiftedRanges : List ShiftedRange := [
    ⟨0xC0, 0xD6, 32⟩, ⟨0xD8, 0xDE, 32⟩, ⟨0x391, 0x3A1, 32⟩, ⟨0x3A3, 0x3AB, 32⟩, ⟨0x400, 0x40F, 80⟩,
    ⟨0x410, 0x42F, 32⟩, ⟨0x531, 0x556, 48⟩, ⟨0x10A0, 0x10C5, 7264⟩, ⟨0x13F8, 0x13FD, -8⟩,
    ⟨0x1C90, 0x1CBA, -3008⟩, ⟨0x1D33, 0x1D3A, -7372⟩, ⟨0x1F08, 0x1F0F, -8⟩, ⟨0x1F18, 0x1F1D, -8⟩,
    ⟨0x1F28, 0x1F2F, -8⟩, ⟨0x1F38, 0x1F3F, -8⟩, ⟨0x1F48, 0x1F4D, -8⟩, ⟨0x1F68, 0x1F6F, -8⟩,
    ⟨0x1FEF, 0x1FEF, -8079⟩, ⟨0x2074, 0x2079, -8256⟩, ⟨0x2080, 0x2089, -8272⟩,
    ⟨0x2460, 0x2468, -9263⟩, ⟨0x24B6, 0x24CF, -9301⟩, ⟨0x24D0, 0x24E9, -9327⟩,
    ⟨0x2C00, 0x2C2F, 48⟩, ⟨0x313A, 0x313F, -8074⟩, ⟨0x3145, 0x314E, -8252⟩,
    ⟨0x314F, 0x3163, -8174⟩, ⟨0x32E4, 0x32E9, -538⟩, ⟨0x32F5, 0x32FA, -525⟩,
    ⟨0x32FB, 0x32FE, -524⟩, ⟨0xAB70, 0xABBF, -38864⟩, ⟨0xFE37, 0xFE37, -64956⟩,
    ⟨0xFE38, 0xFE38, -64955⟩, ⟨0xFE5B, 0xFE5B, -64992⟩, ⟨0xFE5C, 0xFE5C, -64991⟩,
    ⟨0xFE68, 0xFE68, -65036⟩, ⟨0xFF01, 0xFF20, -65248⟩, ⟨0xFF21, 0xFF3A, -65216⟩,
    ⟨0xFF3B, 0xFF5E, -65248⟩, ⟨0xFF85, 0xFF8A, -52923⟩, ⟨0xFF96, 0xFF9B, -52910⟩,
    ⟨0xFFAA, 0xFFAF, -60922⟩, ⟨0xFFB5, 0xFFBE, -61100⟩, ⟨0xFFC2, 0xFFC7, -61025⟩,
    ⟨0xFFCA, 0xFFCF, -61027⟩, ⟨0xFFD2, 0xFFD7, -61029⟩, ⟨0x10400, 0x10427, 40⟩,
    ⟨0x104B0, 0x104D3, 40⟩, ⟨0x10570, 0x1057A, 39⟩, ⟨0x1057C, 0x1058A, 39⟩, ⟨0x1058C, 0x10592, 39⟩,
    ⟨0x10C80, 0x10CB2, 64⟩, ⟨0x10D50, 0x10D65, 32⟩, ⟨0x118A0, 0x118BF, 32⟩, ⟨0x16E40, 0x16E5F, 32⟩,
    ⟨0x16EA0, 0x16EB8, 27⟩, ⟨0x1CCD6, 0x1CCEF, -117877⟩, ⟨0x1CCF0, 0x1CCF9, -117952⟩,
    ⟨0x1D400, 0x1D419, -119711⟩, ⟨0x1D41A, 0x1D433, -119737⟩, ⟨0x1D434, 0x1D44D, -119763⟩,
    ⟨0x1D44E, 0x1D454, -119789⟩, ⟨0x1D456, 0x1D467, -119789⟩, ⟨0x1D468, 0x1D481, -119815⟩,
    ⟨0x1D482, 0x1D49B, -119841⟩, ⟨0x1D4A9, 0x1D4AC, -119867⟩, ⟨0x1D4AE, 0x1D4B5, -119867⟩,
    ⟨0x1D4B6, 0x1D4B9, -119893⟩, ⟨0x1D4BD, 0x1D4C3, -119893⟩, ⟨0x1D4C5, 0x1D4CF, -119893⟩,
    ⟨0x1D4D0, 0x1D4E9, -119919⟩, ⟨0x1D4EA, 0x1D503, -119945⟩, ⟨0x1D507, 0x1D50A, -119971⟩,
    ⟨0x1D50D, 0x1D514, -119971⟩, ⟨0x1D516, 0x1D51C, -119971⟩, ⟨0x1D51E, 0x1D537, -119997⟩,
    ⟨0x1D53B, 0x1D53E, -120023⟩, ⟨0x1D540, 0x1D544, -120023⟩, ⟨0x1D54A, 0x1D550, -120023⟩,
    ⟨0x1D552, 0x1D56B, -120049⟩, ⟨0x1D56C, 0x1D585, -120075⟩, ⟨0x1D586, 0x1D59F, -120101⟩,
    ⟨0x1D5A0, 0x1D5B9, -120127⟩, ⟨0x1D5BA, 0x1D5D3, -120153⟩, ⟨0x1D5D4, 0x1D5ED, -120179⟩,
    ⟨0x1D5EE, 0x1D607, -120205⟩, ⟨0x1D608, 0x1D621, -120231⟩, ⟨0x1D622, 0x1D63B, -120257⟩,
    ⟨0x1D63C, 0x1D655, -120283⟩, ⟨0x1D656, 0x1D66F, -120309⟩, ⟨0x1D670, 0x1D689, -120335⟩,
    ⟨0x1D68A, 0x1D6A3, -120361⟩, ⟨0x1D6A8, 0x1D6B8, -119543⟩, ⟨0x1D6BA, 0x1D6C0, -119543⟩,
    ⟨0x1D6C2, 0x1D6D2, -119569⟩, ⟨0x1D6D4, 0x1D6DA, -119569⟩, ⟨0x1D6E2, 0x1D6F2, -119601⟩,
    ⟨0x1D6F4, 0x1D6FA, -119601⟩, ⟨0x1D6FC, 0x1D70C, -119627⟩, ⟨0x1D70E, 0x1D714, -119627⟩,
    ⟨0x1D71C, 0x1D72C, -119659⟩, ⟨0x1D72E, 0x1D734, -119659⟩, ⟨0x1D736, 0x1D746, -119685⟩,
    ⟨0x1D748, 0x1D74E, -119685⟩, ⟨0x1D756, 0x1D766, -119717⟩, ⟨0x1D768, 0x1D76E, -119717⟩,
    ⟨0x1D770, 0x1D780, -119743⟩, ⟨0x1D782, 0x1D788, -119743⟩, ⟨0x1D790, 0x1D7A0, -119775⟩,
    ⟨0x1D7A2, 0x1D7A8, -119775⟩, ⟨0x1D7AA, 0x1D7BA, -119801⟩, ⟨0x1D7BC, 0x1D7C2, -119801⟩,
    ⟨0x1D7CE, 0x1D7D7, -120734⟩, ⟨0x1D7D8, 0x1D7E1, -120744⟩, ⟨0x1D7E2, 0x1D7EB, -120754⟩,
    ⟨0x1D7EC, 0x1D7F5, -120764⟩, ⟨0x1D7F6, 0x1D7FF, -120774⟩, ⟨0x1E030, 0x1E038, -121856⟩,
    ⟨0x1E03C, 0x1E046, -121854⟩, ⟨0x1E051, 0x1E059, -121889⟩, ⟨0x1E05F, 0x1E064, -121884⟩,
    ⟨0x1E900, 0x1E921, 34⟩, ⟨0x1F130, 0x1F149, -127183⟩, ⟨0x1FBF0, 0x1FBF9, -129984⟩]

/-- Ranges in which capitals and small letters alternate, a capital first. -/
def alternatingRanges : Text.CodeRanges := [
    (0x100, 0x12F), (0x134, 0x137), (0x139, 0x13E), (0x141, 0x148), (0x14A, 0x177), (0x179, 0x17E),
    (0x182, 0x185), (0x187, 0x188), (0x18B, 0x18C), (0x191, 0x192), (0x198, 0x199), (0x1A0, 0x1A5),
    (0x1A7, 0x1A8), (0x1AC, 0x1AD), (0x1AF, 0x1B0), (0x1B3, 0x1B6), (0x1B8, 0x1B9), (0x1BC, 0x1BD),
    (0x1CD, 0x1DC), (0x1DE, 0x1EF), (0x1F4, 0x1F5), (0x1F8, 0x21F), (0x222, 0x233), (0x23B, 0x23C),
    (0x241, 0x242), (0x246, 0x24F), (0x370, 0x373), (0x376, 0x377), (0x3D8, 0x3EF), (0x3F7, 0x3F8),
    (0x3FA, 0x3FB), (0x460, 0x481), (0x48A, 0x4BF), (0x4C1, 0x4CE), (0x4D0, 0x52F),
    (0x1C89, 0x1C8A), (0x1E00, 0x1E95), (0x1EA0, 0x1EFF), (0x2183, 0x2184), (0x2C60, 0x2C61),
    (0x2C67, 0x2C6C), (0x2C72, 0x2C73), (0x2C75, 0x2C76), (0x2C80, 0x2CE3), (0x2CEB, 0x2CEE),
    (0x2CF2, 0x2CF3), (0xA640, 0xA66D), (0xA680, 0xA69B), (0xA722, 0xA72F), (0xA732, 0xA76F),
    (0xA779, 0xA77C), (0xA77E, 0xA787), (0xA78B, 0xA78C), (0xA790, 0xA793), (0xA796, 0xA7A9),
    (0xA7B4, 0xA7C3), (0xA7C7, 0xA7CA), (0xA7CC, 0xA7DB), (0xA7F5, 0xA7F6)]

end Parley.Url
