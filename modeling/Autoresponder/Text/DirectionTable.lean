import Autoresponder.Text.Span

/-!
# Bidirectional classes

The bidirectional class of each assigned character of Unicode 14, as runs; an unassigned code
point has none.
-/

namespace Autoresponder.Text

/-- A bidirectional class: strong left-to-right (`l`), right-to-left (`r`) and Arabic letter
(`al`); European number, separator and terminator; Arabic number; common separator;
non-spacing mark; boundary neutral; paragraph and segment separators; white space; other
neutrals; and the embedding, override and isolate controls. -/
inductive Direction where
  | l | r | al | en | es | et | an | cs | nsm | bn | b | s | ws | on
  | lre | lro | rle | rlo | pdf | lri | rli | fsi | pdi
  deriving DecidableEq, Inhabited, Repr

/-- Part 1 of 3 of `directionRuns`. -/
def directionRunsPart1 : Array (Nat × Nat × Direction) := #[
  (0x0, 0x8, .bn), (0x9, 0x9, .s), (0xA, 0xA, .b),
  (0xB, 0xB, .s), (0xC, 0xC, .ws), (0xD, 0xD, .b),
  (0xE, 0x1B, .bn), (0x1C, 0x1E, .b), (0x1F, 0x1F, .s),
  (0x20, 0x20, .ws), (0x21, 0x22, .on), (0x23, 0x25, .et),
  (0x26, 0x2A, .on), (0x2B, 0x2B, .es), (0x2C, 0x2C, .cs),
  (0x2D, 0x2D, .es), (0x2E, 0x2F, .cs), (0x30, 0x39, .en),
  (0x3A, 0x3A, .cs), (0x3B, 0x40, .on), (0x41, 0x5A, .l),
  (0x5B, 0x60, .on), (0x61, 0x7A, .l), (0x7B, 0x7E, .on),
  (0x7F, 0x84, .bn), (0x85, 0x85, .b), (0x86, 0x9F, .bn),
  (0xA0, 0xA0, .cs), (0xA1, 0xA1, .on), (0xA2, 0xA5, .et),
  (0xA6, 0xA9, .on), (0xAA, 0xAA, .l), (0xAB, 0xAC, .on),
  (0xAD, 0xAD, .bn), (0xAE, 0xAF, .on), (0xB0, 0xB1, .et),
  (0xB2, 0xB3, .en), (0xB4, 0xB4, .on), (0xB5, 0xB5, .l),
  (0xB6, 0xB8, .on), (0xB9, 0xB9, .en), (0xBA, 0xBA, .l),
  (0xBB, 0xBF, .on), (0xC0, 0xD6, .l), (0xD7, 0xD7, .on),
  (0xD8, 0xF6, .l), (0xF7, 0xF7, .on), (0xF8, 0x2B8, .l),
  (0x2B9, 0x2BA, .on), (0x2BB, 0x2C1, .l), (0x2C2, 0x2CF, .on),
  (0x2D0, 0x2D1, .l), (0x2D2, 0x2DF, .on), (0x2E0, 0x2E4, .l),
  (0x2E5, 0x2ED, .on), (0x2EE, 0x2EE, .l), (0x2EF, 0x2FF, .on),
  (0x300, 0x36F, .nsm), (0x370, 0x373, .l), (0x374, 0x375, .on),
  (0x376, 0x377, .l), (0x37A, 0x37D, .l), (0x37E, 0x37E, .on),
  (0x37F, 0x37F, .l), (0x384, 0x385, .on), (0x386, 0x386, .l),
  (0x387, 0x387, .on), (0x388, 0x38A, .l), (0x38C, 0x38C, .l),
  (0x38E, 0x3A1, .l), (0x3A3, 0x3F5, .l), (0x3F6, 0x3F6, .on),
  (0x3F7, 0x482, .l), (0x483, 0x489, .nsm), (0x48A, 0x52F, .l),
  (0x531, 0x556, .l), (0x559, 0x589, .l), (0x58A, 0x58A, .on),
  (0x58D, 0x58E, .on), (0x58F, 0x58F, .et), (0x591, 0x5BD, .nsm),
  (0x5BE, 0x5BE, .r), (0x5BF, 0x5BF, .nsm), (0x5C0, 0x5C0, .r),
  (0x5C1, 0x5C2, .nsm), (0x5C3, 0x5C3, .r), (0x5C4, 0x5C5, .nsm),
  (0x5C6, 0x5C6, .r), (0x5C7, 0x5C7, .nsm), (0x5D0, 0x5EA, .r),
  (0x5EF, 0x5F4, .r), (0x600, 0x605, .an), (0x606, 0x607, .on),
  (0x608, 0x608, .al), (0x609, 0x60A, .et), (0x60B, 0x60B, .al),
  (0x60C, 0x60C, .cs), (0x60D, 0x60D, .al), (0x60E, 0x60F, .on),
  (0x610, 0x61A, .nsm), (0x61B, 0x64A, .al), (0x64B, 0x65F, .nsm),
  (0x660, 0x669, .an), (0x66A, 0x66A, .et), (0x66B, 0x66C, .an),
  (0x66D, 0x66F, .al), (0x670, 0x670, .nsm), (0x671, 0x6D5, .al),
  (0x6D6, 0x6DC, .nsm), (0x6DD, 0x6DD, .an), (0x6DE, 0x6DE, .on),
  (0x6DF, 0x6E4, .nsm), (0x6E5, 0x6E6, .al), (0x6E7, 0x6E8, .nsm),
  (0x6E9, 0x6E9, .on), (0x6EA, 0x6ED, .nsm), (0x6EE, 0x6EF, .al),
  (0x6F0, 0x6F9, .en), (0x6FA, 0x70D, .al), (0x70F, 0x710, .al),
  (0x711, 0x711, .nsm), (0x712, 0x72F, .al), (0x730, 0x74A, .nsm),
  (0x74D, 0x7A5, .al), (0x7A6, 0x7B0, .nsm), (0x7B1, 0x7B1, .al),
  (0x7C0, 0x7EA, .r), (0x7EB, 0x7F3, .nsm), (0x7F4, 0x7F5, .r),
  (0x7F6, 0x7F9, .on), (0x7FA, 0x7FA, .r), (0x7FD, 0x7FD, .nsm),
  (0x7FE, 0x815, .r), (0x816, 0x819, .nsm), (0x81A, 0x81A, .r),
  (0x81B, 0x823, .nsm), (0x824, 0x824, .r), (0x825, 0x827, .nsm),
  (0x828, 0x828, .r), (0x829, 0x82D, .nsm), (0x830, 0x83E, .r),
  (0x840, 0x858, .r), (0x859, 0x85B, .nsm), (0x85E, 0x85E, .r),
  (0x860, 0x86A, .al), (0x870, 0x88E, .al), (0x890, 0x891, .an),
  (0x898, 0x89F, .nsm), (0x8A0, 0x8C9, .al), (0x8CA, 0x8E1, .nsm),
  (0x8E2, 0x8E2, .an), (0x8E3, 0x902, .nsm), (0x903, 0x939, .l),
  (0x93A, 0x93A, .nsm), (0x93B, 0x93B, .l), (0x93C, 0x93C, .nsm),
  (0x93D, 0x940, .l), (0x941, 0x948, .nsm), (0x949, 0x94C, .l),
  (0x94D, 0x94D, .nsm), (0x94E, 0x950, .l), (0x951, 0x957, .nsm),
  (0x958, 0x961, .l), (0x962, 0x963, .nsm), (0x964, 0x980, .l),
  (0x981, 0x981, .nsm), (0x982, 0x983, .l), (0x985, 0x98C, .l),
  (0x98F, 0x990, .l), (0x993, 0x9A8, .l), (0x9AA, 0x9B0, .l),
  (0x9B2, 0x9B2, .l), (0x9B6, 0x9B9, .l), (0x9BC, 0x9BC, .nsm),
  (0x9BD, 0x9C0, .l), (0x9C1, 0x9C4, .nsm), (0x9C7, 0x9C8, .l),
  (0x9CB, 0x9CC, .l), (0x9CD, 0x9CD, .nsm), (0x9CE, 0x9CE, .l),
  (0x9D7, 0x9D7, .l), (0x9DC, 0x9DD, .l), (0x9DF, 0x9E1, .l),
  (0x9E2, 0x9E3, .nsm), (0x9E6, 0x9F1, .l), (0x9F2, 0x9F3, .et),
  (0x9F4, 0x9FA, .l), (0x9FB, 0x9FB, .et), (0x9FC, 0x9FD, .l),
  (0x9FE, 0x9FE, .nsm), (0xA01, 0xA02, .nsm), (0xA03, 0xA03, .l),
  (0xA05, 0xA0A, .l), (0xA0F, 0xA10, .l), (0xA13, 0xA28, .l),
  (0xA2A, 0xA30, .l), (0xA32, 0xA33, .l), (0xA35, 0xA36, .l),
  (0xA38, 0xA39, .l), (0xA3C, 0xA3C, .nsm), (0xA3E, 0xA40, .l),
  (0xA41, 0xA42, .nsm), (0xA47, 0xA48, .nsm), (0xA4B, 0xA4D, .nsm),
  (0xA51, 0xA51, .nsm), (0xA59, 0xA5C, .l), (0xA5E, 0xA5E, .l),
  (0xA66, 0xA6F, .l), (0xA70, 0xA71, .nsm), (0xA72, 0xA74, .l),
  (0xA75, 0xA75, .nsm), (0xA76, 0xA76, .l), (0xA81, 0xA82, .nsm),
  (0xA83, 0xA83, .l), (0xA85, 0xA8D, .l), (0xA8F, 0xA91, .l),
  (0xA93, 0xAA8, .l), (0xAAA, 0xAB0, .l), (0xAB2, 0xAB3, .l),
  (0xAB5, 0xAB9, .l), (0xABC, 0xABC, .nsm), (0xABD, 0xAC0, .l),
  (0xAC1, 0xAC5, .nsm), (0xAC7, 0xAC8, .nsm), (0xAC9, 0xAC9, .l),
  (0xACB, 0xACC, .l), (0xACD, 0xACD, .nsm), (0xAD0, 0xAD0, .l),
  (0xAE0, 0xAE1, .l), (0xAE2, 0xAE3, .nsm), (0xAE6, 0xAF0, .l),
  (0xAF1, 0xAF1, .et), (0xAF9, 0xAF9, .l), (0xAFA, 0xAFF, .nsm),
  (0xB01, 0xB01, .nsm), (0xB02, 0xB03, .l), (0xB05, 0xB0C, .l),
  (0xB0F, 0xB10, .l), (0xB13, 0xB28, .l), (0xB2A, 0xB30, .l),
  (0xB32, 0xB33, .l), (0xB35, 0xB39, .l), (0xB3C, 0xB3C, .nsm),
  (0xB3D, 0xB3E, .l), (0xB3F, 0xB3F, .nsm), (0xB40, 0xB40, .l),
  (0xB41, 0xB44, .nsm), (0xB47, 0xB48, .l), (0xB4B, 0xB4C, .l),
  (0xB4D, 0xB4D, .nsm), (0xB55, 0xB56, .nsm), (0xB57, 0xB57, .l),
  (0xB5C, 0xB5D, .l), (0xB5F, 0xB61, .l), (0xB62, 0xB63, .nsm),
  (0xB66, 0xB77, .l), (0xB82, 0xB82, .nsm), (0xB83, 0xB83, .l),
  (0xB85, 0xB8A, .l), (0xB8E, 0xB90, .l), (0xB92, 0xB95, .l),
  (0xB99, 0xB9A, .l), (0xB9C, 0xB9C, .l), (0xB9E, 0xB9F, .l),
  (0xBA3, 0xBA4, .l), (0xBA8, 0xBAA, .l), (0xBAE, 0xBB9, .l),
  (0xBBE, 0xBBF, .l), (0xBC0, 0xBC0, .nsm), (0xBC1, 0xBC2, .l),
  (0xBC6, 0xBC8, .l), (0xBCA, 0xBCC, .l), (0xBCD, 0xBCD, .nsm),
  (0xBD0, 0xBD0, .l), (0xBD7, 0xBD7, .l), (0xBE6, 0xBF2, .l),
  (0xBF3, 0xBF8, .on), (0xBF9, 0xBF9, .et), (0xBFA, 0xBFA, .on),
  (0xC00, 0xC00, .nsm), (0xC01, 0xC03, .l), (0xC04, 0xC04, .nsm),
  (0xC05, 0xC0C, .l), (0xC0E, 0xC10, .l), (0xC12, 0xC28, .l),
  (0xC2A, 0xC39, .l), (0xC3C, 0xC3C, .nsm), (0xC3D, 0xC3D, .l),
  (0xC3E, 0xC40, .nsm), (0xC41, 0xC44, .l), (0xC46, 0xC48, .nsm),
  (0xC4A, 0xC4D, .nsm), (0xC55, 0xC56, .nsm), (0xC58, 0xC5A, .l),
  (0xC5D, 0xC5D, .l), (0xC60, 0xC61, .l), (0xC62, 0xC63, .nsm),
  (0xC66, 0xC6F, .l), (0xC77, 0xC77, .l), (0xC78, 0xC7E, .on),
  (0xC7F, 0xC80, .l), (0xC81, 0xC81, .nsm), (0xC82, 0xC8C, .l),
  (0xC8E, 0xC90, .l), (0xC92, 0xCA8, .l), (0xCAA, 0xCB3, .l),
  (0xCB5, 0xCB9, .l), (0xCBC, 0xCBC, .nsm), (0xCBD, 0xCC4, .l),
  (0xCC6, 0xCC8, .l), (0xCCA, 0xCCB, .l), (0xCCC, 0xCCD, .nsm),
  (0xCD5, 0xCD6, .l), (0xCDD, 0xCDE, .l), (0xCE0, 0xCE1, .l),
  (0xCE2, 0xCE3, .nsm), (0xCE6, 0xCEF, .l), (0xCF1, 0xCF2, .l),
  (0xD00, 0xD01, .nsm), (0xD02, 0xD0C, .l), (0xD0E, 0xD10, .l),
  (0xD12, 0xD3A, .l), (0xD3B, 0xD3C, .nsm), (0xD3D, 0xD40, .l),
  (0xD41, 0xD44, .nsm), (0xD46, 0xD48, .l), (0xD4A, 0xD4C, .l),
  (0xD4D, 0xD4D, .nsm), (0xD4E, 0xD4F, .l), (0xD54, 0xD61, .l),
  (0xD62, 0xD63, .nsm), (0xD66, 0xD7F, .l), (0xD81, 0xD81, .nsm),
  (0xD82, 0xD83, .l), (0xD85, 0xD96, .l), (0xD9A, 0xDB1, .l),
  (0xDB3, 0xDBB, .l), (0xDBD, 0xDBD, .l), (0xDC0, 0xDC6, .l),
  (0xDCA, 0xDCA, .nsm), (0xDCF, 0xDD1, .l), (0xDD2, 0xDD4, .nsm),
  (0xDD6, 0xDD6, .nsm), (0xDD8, 0xDDF, .l), (0xDE6, 0xDEF, .l),
  (0xDF2, 0xDF4, .l), (0xE01, 0xE30, .l), (0xE31, 0xE31, .nsm),
  (0xE32, 0xE33, .l), (0xE34, 0xE3A, .nsm), (0xE3F, 0xE3F, .et),
  (0xE40, 0xE46, .l), (0xE47, 0xE4E, .nsm), (0xE4F, 0xE5B, .l),
  (0xE81, 0xE82, .l), (0xE84, 0xE84, .l), (0xE86, 0xE8A, .l),
  (0xE8C, 0xEA3, .l), (0xEA5, 0xEA5, .l), (0xEA7, 0xEB0, .l),
  (0xEB1, 0xEB1, .nsm), (0xEB2, 0xEB3, .l), (0xEB4, 0xEBC, .nsm),
  (0xEBD, 0xEBD, .l), (0xEC0, 0xEC4, .l), (0xEC6, 0xEC6, .l),
  (0xEC8, 0xECD, .nsm), (0xED0, 0xED9, .l), (0xEDC, 0xEDF, .l),
  (0xF00, 0xF17, .l), (0xF18, 0xF19, .nsm), (0xF1A, 0xF34, .l),
  (0xF35, 0xF35, .nsm), (0xF36, 0xF36, .l), (0xF37, 0xF37, .nsm),
  (0xF38, 0xF38, .l), (0xF39, 0xF39, .nsm), (0xF3A, 0xF3D, .on),
  (0xF3E, 0xF47, .l), (0xF49, 0xF6C, .l), (0xF71, 0xF7E, .nsm),
  (0xF7F, 0xF7F, .l), (0xF80, 0xF84, .nsm), (0xF85, 0xF85, .l),
  (0xF86, 0xF87, .nsm), (0xF88, 0xF8C, .l), (0xF8D, 0xF97, .nsm),
  (0xF99, 0xFBC, .nsm), (0xFBE, 0xFC5, .l), (0xFC6, 0xFC6, .nsm),
  (0xFC7, 0xFCC, .l), (0xFCE, 0xFDA, .l), (0x1000, 0x102C, .l),
  (0x102D, 0x1030, .nsm), (0x1031, 0x1031, .l), (0x1032, 0x1037, .nsm),
  (0x1038, 0x1038, .l), (0x1039, 0x103A, .nsm), (0x103B, 0x103C, .l),
  (0x103D, 0x103E, .nsm), (0x103F, 0x1057, .l), (0x1058, 0x1059, .nsm),
  (0x105A, 0x105D, .l), (0x105E, 0x1060, .nsm), (0x1061, 0x1070, .l),
  (0x1071, 0x1074, .nsm), (0x1075, 0x1081, .l), (0x1082, 0x1082, .nsm),
  (0x1083, 0x1084, .l), (0x1085, 0x1086, .nsm), (0x1087, 0x108C, .l),
  (0x108D, 0x108D, .nsm), (0x108E, 0x109C, .l), (0x109D, 0x109D, .nsm),
  (0x109E, 0x10C5, .l), (0x10C7, 0x10C7, .l), (0x10CD, 0x10CD, .l),
  (0x10D0, 0x1248, .l), (0x124A, 0x124D, .l), (0x1250, 0x1256, .l),
  (0x1258, 0x1258, .l), (0x125A, 0x125D, .l), (0x1260, 0x1288, .l),
  (0x128A, 0x128D, .l), (0x1290, 0x12B0, .l), (0x12B2, 0x12B5, .l),
  (0x12B8, 0x12BE, .l), (0x12C0, 0x12C0, .l), (0x12C2, 0x12C5, .l),
  (0x12C8, 0x12D6, .l), (0x12D8, 0x1310, .l), (0x1312, 0x1315, .l),
  (0x1318, 0x135A, .l), (0x135D, 0x135F, .nsm), (0x1360, 0x137C, .l),
  (0x1380, 0x138F, .l), (0x1390, 0x1399, .on), (0x13A0, 0x13F5, .l),
  (0x13F8, 0x13FD, .l), (0x1400, 0x1400, .on), (0x1401, 0x167F, .l),
  (0x1680, 0x1680, .ws), (0x1681, 0x169A, .l), (0x169B, 0x169C, .on),
  (0x16A0, 0x16F8, .l), (0x1700, 0x1711, .l), (0x1712, 0x1714, .nsm),
  (0x1715, 0x1715, .l), (0x171F, 0x1731, .l), (0x1732, 0x1733, .nsm),
  (0x1734, 0x1736, .l), (0x1740, 0x1751, .l), (0x1752, 0x1753, .nsm),
  (0x1760, 0x176C, .l), (0x176E, 0x1770, .l), (0x1772, 0x1773, .nsm),
  (0x1780, 0x17B3, .l), (0x17B4, 0x17B5, .nsm), (0x17B6, 0x17B6, .l),
  (0x17B7, 0x17BD, .nsm), (0x17BE, 0x17C5, .l), (0x17C6, 0x17C6, .nsm),
  (0x17C7, 0x17C8, .l), (0x17C9, 0x17D3, .nsm), (0x17D4, 0x17DA, .l),
  (0x17DB, 0x17DB, .et), (0x17DC, 0x17DC, .l), (0x17DD, 0x17DD, .nsm),
  (0x17E0, 0x17E9, .l), (0x17F0, 0x17F9, .on), (0x1800, 0x180A, .on),
  (0x180B, 0x180D, .nsm), (0x180E, 0x180E, .bn), (0x180F, 0x180F, .nsm),
  (0x1810, 0x1819, .l), (0x1820, 0x1878, .l), (0x1880, 0x1884, .l),
  (0x1885, 0x1886, .nsm), (0x1887, 0x18A8, .l), (0x18A9, 0x18A9, .nsm),
  (0x18AA, 0x18AA, .l), (0x18B0, 0x18F5, .l), (0x1900, 0x191E, .l),
  (0x1920, 0x1922, .nsm), (0x1923, 0x1926, .l), (0x1927, 0x1928, .nsm),
  (0x1929, 0x192B, .l), (0x1930, 0x1931, .l), (0x1932, 0x1932, .nsm),
  (0x1933, 0x1938, .l), (0x1939, 0x193B, .nsm), (0x1940, 0x1940, .on),
  (0x1944, 0x1945, .on), (0x1946, 0x196D, .l), (0x1970, 0x1974, .l),
  (0x1980, 0x19AB, .l), (0x19B0, 0x19C9, .l), (0x19D0, 0x19DA, .l),
  (0x19DE, 0x19FF, .on), (0x1A00, 0x1A16, .l), (0x1A17, 0x1A18, .nsm),
  (0x1A19, 0x1A1A, .l), (0x1A1B, 0x1A1B, .nsm), (0x1A1E, 0x1A55, .l),
  (0x1A56, 0x1A56, .nsm), (0x1A57, 0x1A57, .l), (0x1A58, 0x1A5E, .nsm),
  (0x1A60, 0x1A60, .nsm), (0x1A61, 0x1A61, .l), (0x1A62, 0x1A62, .nsm),
  (0x1A63, 0x1A64, .l), (0x1A65, 0x1A6C, .nsm), (0x1A6D, 0x1A72, .l),
  (0x1A73, 0x1A7C, .nsm), (0x1A7F, 0x1A7F, .nsm), (0x1A80, 0x1A89, .l),
  (0x1A90, 0x1A99, .l), (0x1AA0, 0x1AAD, .l), (0x1AB0, 0x1ACE, .nsm),
  (0x1B00, 0x1B03, .nsm), (0x1B04, 0x1B33, .l), (0x1B34, 0x1B34, .nsm),
  (0x1B35, 0x1B35, .l), (0x1B36, 0x1B3A, .nsm), (0x1B3B, 0x1B3B, .l),
  (0x1B3C, 0x1B3C, .nsm), (0x1B3D, 0x1B41, .l), (0x1B42, 0x1B42, .nsm),
  (0x1B43, 0x1B4C, .l), (0x1B50, 0x1B6A, .l), (0x1B6B, 0x1B73, .nsm),
  (0x1B74, 0x1B7E, .l), (0x1B80, 0x1B81, .nsm), (0x1B82, 0x1BA1, .l),
  (0x1BA2, 0x1BA5, .nsm), (0x1BA6, 0x1BA7, .l), (0x1BA8, 0x1BA9, .nsm),
  (0x1BAA, 0x1BAA, .l), (0x1BAB, 0x1BAD, .nsm), (0x1BAE, 0x1BE5, .l),
  (0x1BE6, 0x1BE6, .nsm), (0x1BE7, 0x1BE7, .l), (0x1BE8, 0x1BE9, .nsm),
  (0x1BEA, 0x1BEC, .l), (0x1BED, 0x1BED, .nsm), (0x1BEE, 0x1BEE, .l),
  (0x1BEF, 0x1BF1, .nsm), (0x1BF2, 0x1BF3, .l), (0x1BFC, 0x1C2B, .l),
  (0x1C2C, 0x1C33, .nsm), (0x1C34, 0x1C35, .l), (0x1C36, 0x1C37, .nsm),
  (0x1C3B, 0x1C49, .l), (0x1C4D, 0x1C88, .l), (0x1C90, 0x1CBA, .l),
  (0x1CBD, 0x1CC7, .l), (0x1CD0, 0x1CD2, .nsm), (0x1CD3, 0x1CD3, .l),
  (0x1CD4, 0x1CE0, .nsm), (0x1CE1, 0x1CE1, .l), (0x1CE2, 0x1CE8, .nsm),
  (0x1CE9, 0x1CEC, .l), (0x1CED, 0x1CED, .nsm), (0x1CEE, 0x1CF3, .l),
  (0x1CF4, 0x1CF4, .nsm), (0x1CF5, 0x1CF7, .l), (0x1CF8, 0x1CF9, .nsm),
  (0x1CFA, 0x1CFA, .l), (0x1D00, 0x1DBF, .l), (0x1DC0, 0x1DFF, .nsm),
  (0x1E00, 0x1F15, .l), (0x1F18, 0x1F1D, .l), (0x1F20, 0x1F45, .l),
  (0x1F48, 0x1F4D, .l), (0x1F50, 0x1F57, .l), (0x1F59, 0x1F59, .l),
  (0x1F5B, 0x1F5B, .l), (0x1F5D, 0x1F5D, .l), (0x1F5F, 0x1F7D, .l),
  (0x1F80, 0x1FB4, .l), (0x1FB6, 0x1FBC, .l), (0x1FBD, 0x1FBD, .on),
  (0x1FBE, 0x1FBE, .l), (0x1FBF, 0x1FC1, .on), (0x1FC2, 0x1FC4, .l),
  (0x1FC6, 0x1FCC, .l), (0x1FCD, 0x1FCF, .on), (0x1FD0, 0x1FD3, .l),
  (0x1FD6, 0x1FDB, .l), (0x1FDD, 0x1FDF, .on), (0x1FE0, 0x1FEC, .l),
  (0x1FED, 0x1FEF, .on), (0x1FF2, 0x1FF4, .l), (0x1FF6, 0x1FFC, .l),
  (0x1FFD, 0x1FFE, .on), (0x2000, 0x200A, .ws), (0x200B, 0x200D, .bn),
  (0x200E, 0x200E, .l), (0x200F, 0x200F, .r), (0x2010, 0x2027, .on)]

/-- Part 2 of 3 of `directionRuns`. -/
def directionRunsPart2 : Array (Nat × Nat × Direction) := #[
  (0x2028, 0x2028, .ws), (0x2029, 0x2029, .b), (0x202A, 0x202A, .lre),
  (0x202B, 0x202B, .rle), (0x202C, 0x202C, .pdf), (0x202D, 0x202D, .lro),
  (0x202E, 0x202E, .rlo), (0x202F, 0x202F, .cs), (0x2030, 0x2034, .et),
  (0x2035, 0x2043, .on), (0x2044, 0x2044, .cs), (0x2045, 0x205E, .on),
  (0x205F, 0x205F, .ws), (0x2060, 0x2064, .bn), (0x2066, 0x2066, .lri),
  (0x2067, 0x2067, .rli), (0x2068, 0x2068, .fsi), (0x2069, 0x2069, .pdi),
  (0x206A, 0x206F, .bn), (0x2070, 0x2070, .en), (0x2071, 0x2071, .l),
  (0x2074, 0x2079, .en), (0x207A, 0x207B, .es), (0x207C, 0x207E, .on),
  (0x207F, 0x207F, .l), (0x2080, 0x2089, .en), (0x208A, 0x208B, .es),
  (0x208C, 0x208E, .on), (0x2090, 0x209C, .l), (0x20A0, 0x20C0, .et),
  (0x20D0, 0x20F0, .nsm), (0x2100, 0x2101, .on), (0x2102, 0x2102, .l),
  (0x2103, 0x2106, .on), (0x2107, 0x2107, .l), (0x2108, 0x2109, .on),
  (0x210A, 0x2113, .l), (0x2114, 0x2114, .on), (0x2115, 0x2115, .l),
  (0x2116, 0x2118, .on), (0x2119, 0x211D, .l), (0x211E, 0x2123, .on),
  (0x2124, 0x2124, .l), (0x2125, 0x2125, .on), (0x2126, 0x2126, .l),
  (0x2127, 0x2127, .on), (0x2128, 0x2128, .l), (0x2129, 0x2129, .on),
  (0x212A, 0x212D, .l), (0x212E, 0x212E, .et), (0x212F, 0x2139, .l),
  (0x213A, 0x213B, .on), (0x213C, 0x213F, .l), (0x2140, 0x2144, .on),
  (0x2145, 0x2149, .l), (0x214A, 0x214D, .on), (0x214E, 0x214F, .l),
  (0x2150, 0x215F, .on), (0x2160, 0x2188, .l), (0x2189, 0x218B, .on),
  (0x2190, 0x2211, .on), (0x2212, 0x2212, .es), (0x2213, 0x2213, .et),
  (0x2214, 0x2335, .on), (0x2336, 0x237A, .l), (0x237B, 0x2394, .on),
  (0x2395, 0x2395, .l), (0x2396, 0x2426, .on), (0x2440, 0x244A, .on),
  (0x2460, 0x2487, .on), (0x2488, 0x249B, .en), (0x249C, 0x24E9, .l),
  (0x24EA, 0x26AB, .on), (0x26AC, 0x26AC, .l), (0x26AD, 0x27FF, .on),
  (0x2800, 0x28FF, .l), (0x2900, 0x2B73, .on), (0x2B76, 0x2B95, .on),
  (0x2B97, 0x2BFF, .on), (0x2C00, 0x2CE4, .l), (0x2CE5, 0x2CEA, .on),
  (0x2CEB, 0x2CEE, .l), (0x2CEF, 0x2CF1, .nsm), (0x2CF2, 0x2CF3, .l),
  (0x2CF9, 0x2CFF, .on), (0x2D00, 0x2D25, .l), (0x2D27, 0x2D27, .l),
  (0x2D2D, 0x2D2D, .l), (0x2D30, 0x2D67, .l), (0x2D6F, 0x2D70, .l),
  (0x2D7F, 0x2D7F, .nsm), (0x2D80, 0x2D96, .l), (0x2DA0, 0x2DA6, .l),
  (0x2DA8, 0x2DAE, .l), (0x2DB0, 0x2DB6, .l), (0x2DB8, 0x2DBE, .l),
  (0x2DC0, 0x2DC6, .l), (0x2DC8, 0x2DCE, .l), (0x2DD0, 0x2DD6, .l),
  (0x2DD8, 0x2DDE, .l), (0x2DE0, 0x2DFF, .nsm), (0x2E00, 0x2E5D, .on),
  (0x2E80, 0x2E99, .on), (0x2E9B, 0x2EF3, .on), (0x2F00, 0x2FD5, .on),
  (0x2FF0, 0x2FFB, .on), (0x3000, 0x3000, .ws), (0x3001, 0x3004, .on),
  (0x3005, 0x3007, .l), (0x3008, 0x3020, .on), (0x3021, 0x3029, .l),
  (0x302A, 0x302D, .nsm), (0x302E, 0x302F, .l), (0x3030, 0x3030, .on),
  (0x3031, 0x3035, .l), (0x3036, 0x3037, .on), (0x3038, 0x303C, .l),
  (0x303D, 0x303F, .on), (0x3041, 0x3096, .l), (0x3099, 0x309A, .nsm),
  (0x309B, 0x309C, .on), (0x309D, 0x309F, .l), (0x30A0, 0x30A0, .on),
  (0x30A1, 0x30FA, .l), (0x30FB, 0x30FB, .on), (0x30FC, 0x30FF, .l),
  (0x3105, 0x312F, .l), (0x3131, 0x318E, .l), (0x3190, 0x31BF, .l),
  (0x31C0, 0x31E3, .on), (0x31F0, 0x321C, .l), (0x321D, 0x321E, .on),
  (0x3220, 0x324F, .l), (0x3250, 0x325F, .on), (0x3260, 0x327B, .l),
  (0x327C, 0x327E, .on), (0x327F, 0x32B0, .l), (0x32B1, 0x32BF, .on),
  (0x32C0, 0x32CB, .l), (0x32CC, 0x32CF, .on), (0x32D0, 0x3376, .l),
  (0x3377, 0x337A, .on), (0x337B, 0x33DD, .l), (0x33DE, 0x33DF, .on),
  (0x33E0, 0x33FE, .l), (0x33FF, 0x33FF, .on), (0x3400, 0x4DBF, .l),
  (0x4DC0, 0x4DFF, .on), (0x4E00, 0xA48C, .l), (0xA490, 0xA4C6, .on),
  (0xA4D0, 0xA60C, .l), (0xA60D, 0xA60F, .on), (0xA610, 0xA62B, .l),
  (0xA640, 0xA66E, .l), (0xA66F, 0xA672, .nsm), (0xA673, 0xA673, .on),
  (0xA674, 0xA67D, .nsm), (0xA67E, 0xA67F, .on), (0xA680, 0xA69D, .l),
  (0xA69E, 0xA69F, .nsm), (0xA6A0, 0xA6EF, .l), (0xA6F0, 0xA6F1, .nsm),
  (0xA6F2, 0xA6F7, .l), (0xA700, 0xA721, .on), (0xA722, 0xA787, .l),
  (0xA788, 0xA788, .on), (0xA789, 0xA7CA, .l), (0xA7D0, 0xA7D1, .l),
  (0xA7D3, 0xA7D3, .l), (0xA7D5, 0xA7D9, .l), (0xA7F2, 0xA801, .l),
  (0xA802, 0xA802, .nsm), (0xA803, 0xA805, .l), (0xA806, 0xA806, .nsm),
  (0xA807, 0xA80A, .l), (0xA80B, 0xA80B, .nsm), (0xA80C, 0xA824, .l),
  (0xA825, 0xA826, .nsm), (0xA827, 0xA827, .l), (0xA828, 0xA82B, .on),
  (0xA82C, 0xA82C, .nsm), (0xA830, 0xA837, .l), (0xA838, 0xA839, .et),
  (0xA840, 0xA873, .l), (0xA874, 0xA877, .on), (0xA880, 0xA8C3, .l),
  (0xA8C4, 0xA8C5, .nsm), (0xA8CE, 0xA8D9, .l), (0xA8E0, 0xA8F1, .nsm),
  (0xA8F2, 0xA8FE, .l), (0xA8FF, 0xA8FF, .nsm), (0xA900, 0xA925, .l),
  (0xA926, 0xA92D, .nsm), (0xA92E, 0xA946, .l), (0xA947, 0xA951, .nsm),
  (0xA952, 0xA953, .l), (0xA95F, 0xA97C, .l), (0xA980, 0xA982, .nsm),
  (0xA983, 0xA9B2, .l), (0xA9B3, 0xA9B3, .nsm), (0xA9B4, 0xA9B5, .l),
  (0xA9B6, 0xA9B9, .nsm), (0xA9BA, 0xA9BB, .l), (0xA9BC, 0xA9BD, .nsm),
  (0xA9BE, 0xA9CD, .l), (0xA9CF, 0xA9D9, .l), (0xA9DE, 0xA9E4, .l),
  (0xA9E5, 0xA9E5, .nsm), (0xA9E6, 0xA9FE, .l), (0xAA00, 0xAA28, .l),
  (0xAA29, 0xAA2E, .nsm), (0xAA2F, 0xAA30, .l), (0xAA31, 0xAA32, .nsm),
  (0xAA33, 0xAA34, .l), (0xAA35, 0xAA36, .nsm), (0xAA40, 0xAA42, .l),
  (0xAA43, 0xAA43, .nsm), (0xAA44, 0xAA4B, .l), (0xAA4C, 0xAA4C, .nsm),
  (0xAA4D, 0xAA4D, .l), (0xAA50, 0xAA59, .l), (0xAA5C, 0xAA7B, .l),
  (0xAA7C, 0xAA7C, .nsm), (0xAA7D, 0xAAAF, .l), (0xAAB0, 0xAAB0, .nsm),
  (0xAAB1, 0xAAB1, .l), (0xAAB2, 0xAAB4, .nsm), (0xAAB5, 0xAAB6, .l),
  (0xAAB7, 0xAAB8, .nsm), (0xAAB9, 0xAABD, .l), (0xAABE, 0xAABF, .nsm),
  (0xAAC0, 0xAAC0, .l), (0xAAC1, 0xAAC1, .nsm), (0xAAC2, 0xAAC2, .l),
  (0xAADB, 0xAAEB, .l), (0xAAEC, 0xAAED, .nsm), (0xAAEE, 0xAAF5, .l),
  (0xAAF6, 0xAAF6, .nsm), (0xAB01, 0xAB06, .l), (0xAB09, 0xAB0E, .l),
  (0xAB11, 0xAB16, .l), (0xAB20, 0xAB26, .l), (0xAB28, 0xAB2E, .l),
  (0xAB30, 0xAB69, .l), (0xAB6A, 0xAB6B, .on), (0xAB70, 0xABE4, .l),
  (0xABE5, 0xABE5, .nsm), (0xABE6, 0xABE7, .l), (0xABE8, 0xABE8, .nsm),
  (0xABE9, 0xABEC, .l), (0xABED, 0xABED, .nsm), (0xABF0, 0xABF9, .l),
  (0xAC00, 0xD7A3, .l), (0xD7B0, 0xD7C6, .l), (0xD7CB, 0xD7FB, .l),
  (0xD800, 0xFA6D, .l), (0xFA70, 0xFAD9, .l), (0xFB00, 0xFB06, .l),
  (0xFB13, 0xFB17, .l), (0xFB1D, 0xFB1D, .r), (0xFB1E, 0xFB1E, .nsm),
  (0xFB1F, 0xFB28, .r), (0xFB29, 0xFB29, .es), (0xFB2A, 0xFB36, .r),
  (0xFB38, 0xFB3C, .r), (0xFB3E, 0xFB3E, .r), (0xFB40, 0xFB41, .r),
  (0xFB43, 0xFB44, .r), (0xFB46, 0xFB4F, .r), (0xFB50, 0xFBC2, .al),
  (0xFBD3, 0xFD3D, .al), (0xFD3E, 0xFD4F, .on), (0xFD50, 0xFD8F, .al),
  (0xFD92, 0xFDC7, .al), (0xFDCF, 0xFDCF, .on), (0xFDF0, 0xFDFC, .al),
  (0xFDFD, 0xFDFF, .on), (0xFE00, 0xFE0F, .nsm), (0xFE10, 0xFE19, .on),
  (0xFE20, 0xFE2F, .nsm), (0xFE30, 0xFE4F, .on), (0xFE50, 0xFE50, .cs),
  (0xFE51, 0xFE51, .on), (0xFE52, 0xFE52, .cs), (0xFE54, 0xFE54, .on),
  (0xFE55, 0xFE55, .cs), (0xFE56, 0xFE5E, .on), (0xFE5F, 0xFE5F, .et),
  (0xFE60, 0xFE61, .on), (0xFE62, 0xFE63, .es), (0xFE64, 0xFE66, .on),
  (0xFE68, 0xFE68, .on), (0xFE69, 0xFE6A, .et), (0xFE6B, 0xFE6B, .on),
  (0xFE70, 0xFE74, .al), (0xFE76, 0xFEFC, .al), (0xFEFF, 0xFEFF, .bn),
  (0xFF01, 0xFF02, .on), (0xFF03, 0xFF05, .et), (0xFF06, 0xFF0A, .on),
  (0xFF0B, 0xFF0B, .es), (0xFF0C, 0xFF0C, .cs), (0xFF0D, 0xFF0D, .es),
  (0xFF0E, 0xFF0F, .cs), (0xFF10, 0xFF19, .en), (0xFF1A, 0xFF1A, .cs),
  (0xFF1B, 0xFF20, .on), (0xFF21, 0xFF3A, .l), (0xFF3B, 0xFF40, .on),
  (0xFF41, 0xFF5A, .l), (0xFF5B, 0xFF65, .on), (0xFF66, 0xFFBE, .l),
  (0xFFC2, 0xFFC7, .l), (0xFFCA, 0xFFCF, .l), (0xFFD2, 0xFFD7, .l),
  (0xFFDA, 0xFFDC, .l), (0xFFE0, 0xFFE1, .et), (0xFFE2, 0xFFE4, .on),
  (0xFFE5, 0xFFE6, .et), (0xFFE8, 0xFFEE, .on), (0xFFF9, 0xFFFD, .on),
  (0x10000, 0x1000B, .l), (0x1000D, 0x10026, .l), (0x10028, 0x1003A, .l),
  (0x1003C, 0x1003D, .l), (0x1003F, 0x1004D, .l), (0x10050, 0x1005D, .l),
  (0x10080, 0x100FA, .l), (0x10100, 0x10100, .l), (0x10101, 0x10101, .on),
  (0x10102, 0x10102, .l), (0x10107, 0x10133, .l), (0x10137, 0x1013F, .l),
  (0x10140, 0x1018C, .on), (0x1018D, 0x1018E, .l), (0x10190, 0x1019C, .on),
  (0x101A0, 0x101A0, .on), (0x101D0, 0x101FC, .l), (0x101FD, 0x101FD, .nsm),
  (0x10280, 0x1029C, .l), (0x102A0, 0x102D0, .l), (0x102E0, 0x102E0, .nsm),
  (0x102E1, 0x102FB, .en), (0x10300, 0x10323, .l), (0x1032D, 0x1034A, .l),
  (0x10350, 0x10375, .l), (0x10376, 0x1037A, .nsm), (0x10380, 0x1039D, .l),
  (0x1039F, 0x103C3, .l), (0x103C8, 0x103D5, .l), (0x10400, 0x1049D, .l),
  (0x104A0, 0x104A9, .l), (0x104B0, 0x104D3, .l), (0x104D8, 0x104FB, .l),
  (0x10500, 0x10527, .l), (0x10530, 0x10563, .l), (0x1056F, 0x1057A, .l),
  (0x1057C, 0x1058A, .l), (0x1058C, 0x10592, .l), (0x10594, 0x10595, .l),
  (0x10597, 0x105A1, .l), (0x105A3, 0x105B1, .l), (0x105B3, 0x105B9, .l),
  (0x105BB, 0x105BC, .l), (0x10600, 0x10736, .l), (0x10740, 0x10755, .l),
  (0x10760, 0x10767, .l), (0x10780, 0x10785, .l), (0x10787, 0x107B0, .l),
  (0x107B2, 0x107BA, .l), (0x10800, 0x10805, .r), (0x10808, 0x10808, .r),
  (0x1080A, 0x10835, .r), (0x10837, 0x10838, .r), (0x1083C, 0x1083C, .r),
  (0x1083F, 0x10855, .r), (0x10857, 0x1089E, .r), (0x108A7, 0x108AF, .r),
  (0x108E0, 0x108F2, .r), (0x108F4, 0x108F5, .r), (0x108FB, 0x1091B, .r),
  (0x1091F, 0x1091F, .on), (0x10920, 0x10939, .r), (0x1093F, 0x1093F, .r),
  (0x10980, 0x109B7, .r), (0x109BC, 0x109CF, .r), (0x109D2, 0x10A00, .r),
  (0x10A01, 0x10A03, .nsm), (0x10A05, 0x10A06, .nsm), (0x10A0C, 0x10A0F, .nsm),
  (0x10A10, 0x10A13, .r), (0x10A15, 0x10A17, .r), (0x10A19, 0x10A35, .r),
  (0x10A38, 0x10A3A, .nsm), (0x10A3F, 0x10A3F, .nsm), (0x10A40, 0x10A48, .r),
  (0x10A50, 0x10A58, .r), (0x10A60, 0x10A9F, .r), (0x10AC0, 0x10AE4, .r),
  (0x10AE5, 0x10AE6, .nsm), (0x10AEB, 0x10AF6, .r), (0x10B00, 0x10B35, .r),
  (0x10B39, 0x10B3F, .on), (0x10B40, 0x10B55, .r), (0x10B58, 0x10B72, .r),
  (0x10B78, 0x10B91, .r), (0x10B99, 0x10B9C, .r), (0x10BA9, 0x10BAF, .r),
  (0x10C00, 0x10C48, .r), (0x10C80, 0x10CB2, .r), (0x10CC0, 0x10CF2, .r),
  (0x10CFA, 0x10CFF, .r), (0x10D00, 0x10D23, .al), (0x10D24, 0x10D27, .nsm),
  (0x10D30, 0x10D39, .an), (0x10E60, 0x10E7E, .an), (0x10E80, 0x10EA9, .r),
  (0x10EAB, 0x10EAC, .nsm), (0x10EAD, 0x10EAD, .r), (0x10EB0, 0x10EB1, .r),
  (0x10F00, 0x10F27, .r), (0x10F30, 0x10F45, .al), (0x10F46, 0x10F50, .nsm),
  (0x10F51, 0x10F59, .al), (0x10F70, 0x10F81, .r), (0x10F82, 0x10F85, .nsm),
  (0x10F86, 0x10F89, .r), (0x10FB0, 0x10FCB, .r), (0x10FE0, 0x10FF6, .r),
  (0x11000, 0x11000, .l), (0x11001, 0x11001, .nsm), (0x11002, 0x11037, .l),
  (0x11038, 0x11046, .nsm), (0x11047, 0x1104D, .l), (0x11052, 0x11065, .on),
  (0x11066, 0x1106F, .l), (0x11070, 0x11070, .nsm), (0x11071, 0x11072, .l),
  (0x11073, 0x11074, .nsm), (0x11075, 0x11075, .l), (0x1107F, 0x11081, .nsm),
  (0x11082, 0x110B2, .l), (0x110B3, 0x110B6, .nsm), (0x110B7, 0x110B8, .l),
  (0x110B9, 0x110BA, .nsm), (0x110BB, 0x110C1, .l), (0x110C2, 0x110C2, .nsm),
  (0x110CD, 0x110CD, .l), (0x110D0, 0x110E8, .l), (0x110F0, 0x110F9, .l),
  (0x11100, 0x11102, .nsm), (0x11103, 0x11126, .l), (0x11127, 0x1112B, .nsm),
  (0x1112C, 0x1112C, .l), (0x1112D, 0x11134, .nsm), (0x11136, 0x11147, .l),
  (0x11150, 0x11172, .l), (0x11173, 0x11173, .nsm), (0x11174, 0x11176, .l),
  (0x11180, 0x11181, .nsm), (0x11182, 0x111B5, .l), (0x111B6, 0x111BE, .nsm),
  (0x111BF, 0x111C8, .l), (0x111C9, 0x111CC, .nsm), (0x111CD, 0x111CE, .l),
  (0x111CF, 0x111CF, .nsm), (0x111D0, 0x111DF, .l), (0x111E1, 0x111F4, .l),
  (0x11200, 0x11211, .l), (0x11213, 0x1122E, .l), (0x1122F, 0x11231, .nsm),
  (0x11232, 0x11233, .l), (0x11234, 0x11234, .nsm), (0x11235, 0x11235, .l),
  (0x11236, 0x11237, .nsm), (0x11238, 0x1123D, .l), (0x1123E, 0x1123E, .nsm),
  (0x11280, 0x11286, .l), (0x11288, 0x11288, .l), (0x1128A, 0x1128D, .l),
  (0x1128F, 0x1129D, .l), (0x1129F, 0x112A9, .l), (0x112B0, 0x112DE, .l),
  (0x112DF, 0x112DF, .nsm), (0x112E0, 0x112E2, .l), (0x112E3, 0x112EA, .nsm),
  (0x112F0, 0x112F9, .l), (0x11300, 0x11301, .nsm), (0x11302, 0x11303, .l),
  (0x11305, 0x1130C, .l), (0x1130F, 0x11310, .l), (0x11313, 0x11328, .l),
  (0x1132A, 0x11330, .l), (0x11332, 0x11333, .l), (0x11335, 0x11339, .l),
  (0x1133B, 0x1133C, .nsm), (0x1133D, 0x1133F, .l), (0x11340, 0x11340, .nsm),
  (0x11341, 0x11344, .l), (0x11347, 0x11348, .l), (0x1134B, 0x1134D, .l),
  (0x11350, 0x11350, .l), (0x11357, 0x11357, .l), (0x1135D, 0x11363, .l),
  (0x11366, 0x1136C, .nsm), (0x11370, 0x11374, .nsm), (0x11400, 0x11437, .l),
  (0x11438, 0x1143F, .nsm), (0x11440, 0x11441, .l), (0x11442, 0x11444, .nsm),
  (0x11445, 0x11445, .l), (0x11446, 0x11446, .nsm), (0x11447, 0x1145B, .l),
  (0x1145D, 0x1145D, .l), (0x1145E, 0x1145E, .nsm), (0x1145F, 0x11461, .l),
  (0x11480, 0x114B2, .l), (0x114B3, 0x114B8, .nsm), (0x114B9, 0x114B9, .l),
  (0x114BA, 0x114BA, .nsm), (0x114BB, 0x114BE, .l), (0x114BF, 0x114C0, .nsm),
  (0x114C1, 0x114C1, .l), (0x114C2, 0x114C3, .nsm), (0x114C4, 0x114C7, .l),
  (0x114D0, 0x114D9, .l), (0x11580, 0x115B1, .l), (0x115B2, 0x115B5, .nsm),
  (0x115B8, 0x115BB, .l), (0x115BC, 0x115BD, .nsm), (0x115BE, 0x115BE, .l),
  (0x115BF, 0x115C0, .nsm), (0x115C1, 0x115DB, .l), (0x115DC, 0x115DD, .nsm),
  (0x11600, 0x11632, .l), (0x11633, 0x1163A, .nsm), (0x1163B, 0x1163C, .l),
  (0x1163D, 0x1163D, .nsm), (0x1163E, 0x1163E, .l), (0x1163F, 0x11640, .nsm),
  (0x11641, 0x11644, .l), (0x11650, 0x11659, .l), (0x11660, 0x1166C, .on),
  (0x11680, 0x116AA, .l), (0x116AB, 0x116AB, .nsm), (0x116AC, 0x116AC, .l),
  (0x116AD, 0x116AD, .nsm), (0x116AE, 0x116AF, .l), (0x116B0, 0x116B5, .nsm),
  (0x116B6, 0x116B6, .l), (0x116B7, 0x116B7, .nsm), (0x116B8, 0x116B9, .l),
  (0x116C0, 0x116C9, .l), (0x11700, 0x1171A, .l), (0x1171D, 0x1171F, .nsm),
  (0x11720, 0x11721, .l), (0x11722, 0x11725, .nsm), (0x11726, 0x11726, .l),
  (0x11727, 0x1172B, .nsm), (0x11730, 0x11746, .l), (0x11800, 0x1182E, .l),
  (0x1182F, 0x11837, .nsm), (0x11838, 0x11838, .l), (0x11839, 0x1183A, .nsm),
  (0x1183B, 0x1183B, .l), (0x118A0, 0x118F2, .l), (0x118FF, 0x11906, .l),
  (0x11909, 0x11909, .l), (0x1190C, 0x11913, .l), (0x11915, 0x11916, .l),
  (0x11918, 0x11935, .l), (0x11937, 0x11938, .l), (0x1193B, 0x1193C, .nsm),
  (0x1193D, 0x1193D, .l), (0x1193E, 0x1193E, .nsm), (0x1193F, 0x11942, .l),
  (0x11943, 0x11943, .nsm), (0x11944, 0x11946, .l), (0x11950, 0x11959, .l),
  (0x119A0, 0x119A7, .l), (0x119AA, 0x119D3, .l), (0x119D4, 0x119D7, .nsm),
  (0x119DA, 0x119DB, .nsm), (0x119DC, 0x119DF, .l), (0x119E0, 0x119E0, .nsm),
  (0x119E1, 0x119E4, .l), (0x11A00, 0x11A00, .l), (0x11A01, 0x11A06, .nsm),
  (0x11A07, 0x11A08, .l), (0x11A09, 0x11A0A, .nsm), (0x11A0B, 0x11A32, .l),
  (0x11A33, 0x11A38, .nsm), (0x11A39, 0x11A3A, .l), (0x11A3B, 0x11A3E, .nsm),
  (0x11A3F, 0x11A46, .l), (0x11A47, 0x11A47, .nsm), (0x11A50, 0x11A50, .l),
  (0x11A51, 0x11A56, .nsm), (0x11A57, 0x11A58, .l), (0x11A59, 0x11A5B, .nsm)]

/-- Part 3 of 3 of `directionRuns`. -/
def directionRunsPart3 : Array (Nat × Nat × Direction) := #[
  (0x11A5C, 0x11A89, .l), (0x11A8A, 0x11A96, .nsm), (0x11A97, 0x11A97, .l),
  (0x11A98, 0x11A99, .nsm), (0x11A9A, 0x11AA2, .l), (0x11AB0, 0x11AF8, .l),
  (0x11C00, 0x11C08, .l), (0x11C0A, 0x11C2F, .l), (0x11C30, 0x11C36, .nsm),
  (0x11C38, 0x11C3D, .nsm), (0x11C3E, 0x11C45, .l), (0x11C50, 0x11C6C, .l),
  (0x11C70, 0x11C8F, .l), (0x11C92, 0x11CA7, .nsm), (0x11CA9, 0x11CA9, .l),
  (0x11CAA, 0x11CB0, .nsm), (0x11CB1, 0x11CB1, .l), (0x11CB2, 0x11CB3, .nsm),
  (0x11CB4, 0x11CB4, .l), (0x11CB5, 0x11CB6, .nsm), (0x11D00, 0x11D06, .l),
  (0x11D08, 0x11D09, .l), (0x11D0B, 0x11D30, .l), (0x11D31, 0x11D36, .nsm),
  (0x11D3A, 0x11D3A, .nsm), (0x11D3C, 0x11D3D, .nsm), (0x11D3F, 0x11D45, .nsm),
  (0x11D46, 0x11D46, .l), (0x11D47, 0x11D47, .nsm), (0x11D50, 0x11D59, .l),
  (0x11D60, 0x11D65, .l), (0x11D67, 0x11D68, .l), (0x11D6A, 0x11D8E, .l),
  (0x11D90, 0x11D91, .nsm), (0x11D93, 0x11D94, .l), (0x11D95, 0x11D95, .nsm),
  (0x11D96, 0x11D96, .l), (0x11D97, 0x11D97, .nsm), (0x11D98, 0x11D98, .l),
  (0x11DA0, 0x11DA9, .l), (0x11EE0, 0x11EF2, .l), (0x11EF3, 0x11EF4, .nsm),
  (0x11EF5, 0x11EF8, .l), (0x11FB0, 0x11FB0, .l), (0x11FC0, 0x11FD4, .l),
  (0x11FD5, 0x11FDC, .on), (0x11FDD, 0x11FE0, .et), (0x11FE1, 0x11FF1, .on),
  (0x11FFF, 0x12399, .l), (0x12400, 0x1246E, .l), (0x12470, 0x12474, .l),
  (0x12480, 0x12543, .l), (0x12F90, 0x12FF2, .l), (0x13000, 0x1342E, .l),
  (0x13430, 0x13438, .l), (0x14400, 0x14646, .l), (0x16800, 0x16A38, .l),
  (0x16A40, 0x16A5E, .l), (0x16A60, 0x16A69, .l), (0x16A6E, 0x16ABE, .l),
  (0x16AC0, 0x16AC9, .l), (0x16AD0, 0x16AED, .l), (0x16AF0, 0x16AF4, .nsm),
  (0x16AF5, 0x16AF5, .l), (0x16B00, 0x16B2F, .l), (0x16B30, 0x16B36, .nsm),
  (0x16B37, 0x16B45, .l), (0x16B50, 0x16B59, .l), (0x16B5B, 0x16B61, .l),
  (0x16B63, 0x16B77, .l), (0x16B7D, 0x16B8F, .l), (0x16E40, 0x16E9A, .l),
  (0x16F00, 0x16F4A, .l), (0x16F4F, 0x16F4F, .nsm), (0x16F50, 0x16F87, .l),
  (0x16F8F, 0x16F92, .nsm), (0x16F93, 0x16F9F, .l), (0x16FE0, 0x16FE1, .l),
  (0x16FE2, 0x16FE2, .on), (0x16FE3, 0x16FE3, .l), (0x16FE4, 0x16FE4, .nsm),
  (0x16FF0, 0x16FF1, .l), (0x17000, 0x187F7, .l), (0x18800, 0x18CD5, .l),
  (0x18D00, 0x18D08, .l), (0x1AFF0, 0x1AFF3, .l), (0x1AFF5, 0x1AFFB, .l),
  (0x1AFFD, 0x1AFFE, .l), (0x1B000, 0x1B122, .l), (0x1B150, 0x1B152, .l),
  (0x1B164, 0x1B167, .l), (0x1B170, 0x1B2FB, .l), (0x1BC00, 0x1BC6A, .l),
  (0x1BC70, 0x1BC7C, .l), (0x1BC80, 0x1BC88, .l), (0x1BC90, 0x1BC99, .l),
  (0x1BC9C, 0x1BC9C, .l), (0x1BC9D, 0x1BC9E, .nsm), (0x1BC9F, 0x1BC9F, .l),
  (0x1BCA0, 0x1BCA3, .bn), (0x1CF00, 0x1CF2D, .nsm), (0x1CF30, 0x1CF46, .nsm),
  (0x1CF50, 0x1CFC3, .l), (0x1D000, 0x1D0F5, .l), (0x1D100, 0x1D126, .l),
  (0x1D129, 0x1D166, .l), (0x1D167, 0x1D169, .nsm), (0x1D16A, 0x1D172, .l),
  (0x1D173, 0x1D17A, .bn), (0x1D17B, 0x1D182, .nsm), (0x1D183, 0x1D184, .l),
  (0x1D185, 0x1D18B, .nsm), (0x1D18C, 0x1D1A9, .l), (0x1D1AA, 0x1D1AD, .nsm),
  (0x1D1AE, 0x1D1E8, .l), (0x1D1E9, 0x1D1EA, .on), (0x1D200, 0x1D241, .on),
  (0x1D242, 0x1D244, .nsm), (0x1D245, 0x1D245, .on), (0x1D2E0, 0x1D2F3, .l),
  (0x1D300, 0x1D356, .on), (0x1D360, 0x1D378, .l), (0x1D400, 0x1D454, .l),
  (0x1D456, 0x1D49C, .l), (0x1D49E, 0x1D49F, .l), (0x1D4A2, 0x1D4A2, .l),
  (0x1D4A5, 0x1D4A6, .l), (0x1D4A9, 0x1D4AC, .l), (0x1D4AE, 0x1D4B9, .l),
  (0x1D4BB, 0x1D4BB, .l), (0x1D4BD, 0x1D4C3, .l), (0x1D4C5, 0x1D505, .l),
  (0x1D507, 0x1D50A, .l), (0x1D50D, 0x1D514, .l), (0x1D516, 0x1D51C, .l),
  (0x1D51E, 0x1D539, .l), (0x1D53B, 0x1D53E, .l), (0x1D540, 0x1D544, .l),
  (0x1D546, 0x1D546, .l), (0x1D54A, 0x1D550, .l), (0x1D552, 0x1D6A5, .l),
  (0x1D6A8, 0x1D6DA, .l), (0x1D6DB, 0x1D6DB, .on), (0x1D6DC, 0x1D714, .l),
  (0x1D715, 0x1D715, .on), (0x1D716, 0x1D74E, .l), (0x1D74F, 0x1D74F, .on),
  (0x1D750, 0x1D788, .l), (0x1D789, 0x1D789, .on), (0x1D78A, 0x1D7C2, .l),
  (0x1D7C3, 0x1D7C3, .on), (0x1D7C4, 0x1D7CB, .l), (0x1D7CE, 0x1D7FF, .en),
  (0x1D800, 0x1D9FF, .l), (0x1DA00, 0x1DA36, .nsm), (0x1DA37, 0x1DA3A, .l),
  (0x1DA3B, 0x1DA6C, .nsm), (0x1DA6D, 0x1DA74, .l), (0x1DA75, 0x1DA75, .nsm),
  (0x1DA76, 0x1DA83, .l), (0x1DA84, 0x1DA84, .nsm), (0x1DA85, 0x1DA8B, .l),
  (0x1DA9B, 0x1DA9F, .nsm), (0x1DAA1, 0x1DAAF, .nsm), (0x1DF00, 0x1DF1E, .l),
  (0x1E000, 0x1E006, .nsm), (0x1E008, 0x1E018, .nsm), (0x1E01B, 0x1E021, .nsm),
  (0x1E023, 0x1E024, .nsm), (0x1E026, 0x1E02A, .nsm), (0x1E100, 0x1E12C, .l),
  (0x1E130, 0x1E136, .nsm), (0x1E137, 0x1E13D, .l), (0x1E140, 0x1E149, .l),
  (0x1E14E, 0x1E14F, .l), (0x1E290, 0x1E2AD, .l), (0x1E2AE, 0x1E2AE, .nsm),
  (0x1E2C0, 0x1E2EB, .l), (0x1E2EC, 0x1E2EF, .nsm), (0x1E2F0, 0x1E2F9, .l),
  (0x1E2FF, 0x1E2FF, .et), (0x1E7E0, 0x1E7E6, .l), (0x1E7E8, 0x1E7EB, .l),
  (0x1E7ED, 0x1E7EE, .l), (0x1E7F0, 0x1E7FE, .l), (0x1E800, 0x1E8C4, .r),
  (0x1E8C7, 0x1E8CF, .r), (0x1E8D0, 0x1E8D6, .nsm), (0x1E900, 0x1E943, .r),
  (0x1E944, 0x1E94A, .nsm), (0x1E94B, 0x1E94B, .r), (0x1E950, 0x1E959, .r),
  (0x1E95E, 0x1E95F, .r), (0x1EC71, 0x1ECB4, .al), (0x1ED01, 0x1ED3D, .al),
  (0x1EE00, 0x1EE03, .al), (0x1EE05, 0x1EE1F, .al), (0x1EE21, 0x1EE22, .al),
  (0x1EE24, 0x1EE24, .al), (0x1EE27, 0x1EE27, .al), (0x1EE29, 0x1EE32, .al),
  (0x1EE34, 0x1EE37, .al), (0x1EE39, 0x1EE39, .al), (0x1EE3B, 0x1EE3B, .al),
  (0x1EE42, 0x1EE42, .al), (0x1EE47, 0x1EE47, .al), (0x1EE49, 0x1EE49, .al),
  (0x1EE4B, 0x1EE4B, .al), (0x1EE4D, 0x1EE4F, .al), (0x1EE51, 0x1EE52, .al),
  (0x1EE54, 0x1EE54, .al), (0x1EE57, 0x1EE57, .al), (0x1EE59, 0x1EE59, .al),
  (0x1EE5B, 0x1EE5B, .al), (0x1EE5D, 0x1EE5D, .al), (0x1EE5F, 0x1EE5F, .al),
  (0x1EE61, 0x1EE62, .al), (0x1EE64, 0x1EE64, .al), (0x1EE67, 0x1EE6A, .al),
  (0x1EE6C, 0x1EE72, .al), (0x1EE74, 0x1EE77, .al), (0x1EE79, 0x1EE7C, .al),
  (0x1EE7E, 0x1EE7E, .al), (0x1EE80, 0x1EE89, .al), (0x1EE8B, 0x1EE9B, .al),
  (0x1EEA1, 0x1EEA3, .al), (0x1EEA5, 0x1EEA9, .al), (0x1EEAB, 0x1EEBB, .al),
  (0x1EEF0, 0x1EEF1, .on), (0x1F000, 0x1F02B, .on), (0x1F030, 0x1F093, .on),
  (0x1F0A0, 0x1F0AE, .on), (0x1F0B1, 0x1F0BF, .on), (0x1F0C1, 0x1F0CF, .on),
  (0x1F0D1, 0x1F0F5, .on), (0x1F100, 0x1F10A, .en), (0x1F10B, 0x1F10F, .on),
  (0x1F110, 0x1F12E, .l), (0x1F12F, 0x1F12F, .on), (0x1F130, 0x1F169, .l),
  (0x1F16A, 0x1F16F, .on), (0x1F170, 0x1F1AC, .l), (0x1F1AD, 0x1F1AD, .on),
  (0x1F1E6, 0x1F202, .l), (0x1F210, 0x1F23B, .l), (0x1F240, 0x1F248, .l),
  (0x1F250, 0x1F251, .l), (0x1F260, 0x1F265, .on), (0x1F300, 0x1F6D7, .on),
  (0x1F6DD, 0x1F6EC, .on), (0x1F6F0, 0x1F6FC, .on), (0x1F700, 0x1F773, .on),
  (0x1F780, 0x1F7D8, .on), (0x1F7E0, 0x1F7EB, .on), (0x1F7F0, 0x1F7F0, .on),
  (0x1F800, 0x1F80B, .on), (0x1F810, 0x1F847, .on), (0x1F850, 0x1F859, .on),
  (0x1F860, 0x1F887, .on), (0x1F890, 0x1F8AD, .on), (0x1F8B0, 0x1F8B1, .on),
  (0x1F900, 0x1FA53, .on), (0x1FA60, 0x1FA6D, .on), (0x1FA70, 0x1FA74, .on),
  (0x1FA78, 0x1FA7C, .on), (0x1FA80, 0x1FA86, .on), (0x1FA90, 0x1FAAC, .on),
  (0x1FAB0, 0x1FABA, .on), (0x1FAC0, 0x1FAC5, .on), (0x1FAD0, 0x1FAD9, .on),
  (0x1FAE0, 0x1FAE7, .on), (0x1FAF0, 0x1FAF6, .on), (0x1FB00, 0x1FB92, .on),
  (0x1FB94, 0x1FBCA, .on), (0x1FBF0, 0x1FBF9, .en), (0x20000, 0x2A6DF, .l),
  (0x2A700, 0x2B738, .l), (0x2B740, 0x2B81D, .l), (0x2B820, 0x2CEA1, .l),
  (0x2CEB0, 0x2EBE0, .l), (0x2F800, 0x2FA1D, .l), (0x30000, 0x3134A, .l),
  (0xE0001, 0xE0001, .bn), (0xE0020, 0xE007F, .bn), (0xE0100, 0xE01EF, .nsm),
  (0xF0000, 0xFFFFD, .l), (0x100000, 0x10FFFD, .l)]

/-- Runs of assigned characters of one bidirectional class: `(lo, hi, class)`. -/
def directionRuns : Array (Nat × Nat × Direction) :=
  directionRunsPart1 ++
    directionRunsPart2 ++
    directionRunsPart3

/-- Characters of general category mark (`Mn`, `Mc`, `Me`). -/
def markSpans : Array (Nat × Nat) := #[
  (0x300, 0x36F), (0x483, 0x489), (0x591, 0x5BD), (0x5BF, 0x5BF), (0x5C1, 0x5C2), (0x5C4, 0x5C5),
  (0x5C7, 0x5C7), (0x610, 0x61A), (0x64B, 0x65F), (0x670, 0x670), (0x6D6, 0x6DC), (0x6DF, 0x6E4),
  (0x6E7, 0x6E8), (0x6EA, 0x6ED), (0x711, 0x711), (0x730, 0x74A), (0x7A6, 0x7B0), (0x7EB, 0x7F3),
  (0x7FD, 0x7FD), (0x816, 0x819), (0x81B, 0x823), (0x825, 0x827), (0x829, 0x82D), (0x859, 0x85B),
  (0x898, 0x89F), (0x8CA, 0x8E1), (0x8E3, 0x903), (0x93A, 0x93C), (0x93E, 0x94F), (0x951, 0x957),
  (0x962, 0x963), (0x981, 0x983), (0x9BC, 0x9BC), (0x9BE, 0x9C4), (0x9C7, 0x9C8), (0x9CB, 0x9CD),
  (0x9D7, 0x9D7), (0x9E2, 0x9E3), (0x9FE, 0x9FE), (0xA01, 0xA03), (0xA3C, 0xA3C), (0xA3E, 0xA42),
  (0xA47, 0xA48), (0xA4B, 0xA4D), (0xA51, 0xA51), (0xA70, 0xA71), (0xA75, 0xA75), (0xA81, 0xA83),
  (0xABC, 0xABC), (0xABE, 0xAC5), (0xAC7, 0xAC9), (0xACB, 0xACD), (0xAE2, 0xAE3), (0xAFA, 0xAFF),
  (0xB01, 0xB03), (0xB3C, 0xB3C), (0xB3E, 0xB44), (0xB47, 0xB48), (0xB4B, 0xB4D), (0xB55, 0xB57),
  (0xB62, 0xB63), (0xB82, 0xB82), (0xBBE, 0xBC2), (0xBC6, 0xBC8), (0xBCA, 0xBCD), (0xBD7, 0xBD7),
  (0xC00, 0xC04), (0xC3C, 0xC3C), (0xC3E, 0xC44), (0xC46, 0xC48), (0xC4A, 0xC4D), (0xC55, 0xC56),
  (0xC62, 0xC63), (0xC81, 0xC83), (0xCBC, 0xCBC), (0xCBE, 0xCC4), (0xCC6, 0xCC8), (0xCCA, 0xCCD),
  (0xCD5, 0xCD6), (0xCE2, 0xCE3), (0xD00, 0xD03), (0xD3B, 0xD3C), (0xD3E, 0xD44), (0xD46, 0xD48),
  (0xD4A, 0xD4D), (0xD57, 0xD57), (0xD62, 0xD63), (0xD81, 0xD83), (0xDCA, 0xDCA), (0xDCF, 0xDD4),
  (0xDD6, 0xDD6), (0xDD8, 0xDDF), (0xDF2, 0xDF3), (0xE31, 0xE31), (0xE34, 0xE3A), (0xE47, 0xE4E),
  (0xEB1, 0xEB1), (0xEB4, 0xEBC), (0xEC8, 0xECD), (0xF18, 0xF19), (0xF35, 0xF35), (0xF37, 0xF37),
  (0xF39, 0xF39), (0xF3E, 0xF3F), (0xF71, 0xF84), (0xF86, 0xF87), (0xF8D, 0xF97), (0xF99, 0xFBC),
  (0xFC6, 0xFC6), (0x102B, 0x103E), (0x1056, 0x1059), (0x105E, 0x1060), (0x1062, 0x1064), (0x1067, 0x106D),
  (0x1071, 0x1074), (0x1082, 0x108D), (0x108F, 0x108F), (0x109A, 0x109D), (0x135D, 0x135F), (0x1712, 0x1715),
  (0x1732, 0x1734), (0x1752, 0x1753), (0x1772, 0x1773), (0x17B4, 0x17D3), (0x17DD, 0x17DD), (0x180B, 0x180D),
  (0x180F, 0x180F), (0x1885, 0x1886), (0x18A9, 0x18A9), (0x1920, 0x192B), (0x1930, 0x193B), (0x1A17, 0x1A1B),
  (0x1A55, 0x1A5E), (0x1A60, 0x1A7C), (0x1A7F, 0x1A7F), (0x1AB0, 0x1ACE), (0x1B00, 0x1B04), (0x1B34, 0x1B44),
  (0x1B6B, 0x1B73), (0x1B80, 0x1B82), (0x1BA1, 0x1BAD), (0x1BE6, 0x1BF3), (0x1C24, 0x1C37), (0x1CD0, 0x1CD2),
  (0x1CD4, 0x1CE8), (0x1CED, 0x1CED), (0x1CF4, 0x1CF4), (0x1CF7, 0x1CF9), (0x1DC0, 0x1DFF), (0x20D0, 0x20F0),
  (0x2CEF, 0x2CF1), (0x2D7F, 0x2D7F), (0x2DE0, 0x2DFF), (0x302A, 0x302F), (0x3099, 0x309A), (0xA66F, 0xA672),
  (0xA674, 0xA67D), (0xA69E, 0xA69F), (0xA6F0, 0xA6F1), (0xA802, 0xA802), (0xA806, 0xA806), (0xA80B, 0xA80B),
  (0xA823, 0xA827), (0xA82C, 0xA82C), (0xA880, 0xA881), (0xA8B4, 0xA8C5), (0xA8E0, 0xA8F1), (0xA8FF, 0xA8FF),
  (0xA926, 0xA92D), (0xA947, 0xA953), (0xA980, 0xA983), (0xA9B3, 0xA9C0), (0xA9E5, 0xA9E5), (0xAA29, 0xAA36),
  (0xAA43, 0xAA43), (0xAA4C, 0xAA4D), (0xAA7B, 0xAA7D), (0xAAB0, 0xAAB0), (0xAAB2, 0xAAB4), (0xAAB7, 0xAAB8),
  (0xAABE, 0xAABF), (0xAAC1, 0xAAC1), (0xAAEB, 0xAAEF), (0xAAF5, 0xAAF6), (0xABE3, 0xABEA), (0xABEC, 0xABED),
  (0xFB1E, 0xFB1E), (0xFE00, 0xFE0F), (0xFE20, 0xFE2F), (0x101FD, 0x101FD), (0x102E0, 0x102E0), (0x10376, 0x1037A),
  (0x10A01, 0x10A03), (0x10A05, 0x10A06), (0x10A0C, 0x10A0F), (0x10A38, 0x10A3A), (0x10A3F, 0x10A3F), (0x10AE5, 0x10AE6),
  (0x10D24, 0x10D27), (0x10EAB, 0x10EAC), (0x10F46, 0x10F50), (0x10F82, 0x10F85), (0x11000, 0x11002), (0x11038, 0x11046),
  (0x11070, 0x11070), (0x11073, 0x11074), (0x1107F, 0x11082), (0x110B0, 0x110BA), (0x110C2, 0x110C2), (0x11100, 0x11102),
  (0x11127, 0x11134), (0x11145, 0x11146), (0x11173, 0x11173), (0x11180, 0x11182), (0x111B3, 0x111C0), (0x111C9, 0x111CC),
  (0x111CE, 0x111CF), (0x1122C, 0x11237), (0x1123E, 0x1123E), (0x112DF, 0x112EA), (0x11300, 0x11303), (0x1133B, 0x1133C),
  (0x1133E, 0x11344), (0x11347, 0x11348), (0x1134B, 0x1134D), (0x11357, 0x11357), (0x11362, 0x11363), (0x11366, 0x1136C),
  (0x11370, 0x11374), (0x11435, 0x11446), (0x1145E, 0x1145E), (0x114B0, 0x114C3), (0x115AF, 0x115B5), (0x115B8, 0x115C0),
  (0x115DC, 0x115DD), (0x11630, 0x11640), (0x116AB, 0x116B7), (0x1171D, 0x1172B), (0x1182C, 0x1183A), (0x11930, 0x11935),
  (0x11937, 0x11938), (0x1193B, 0x1193E), (0x11940, 0x11940), (0x11942, 0x11943), (0x119D1, 0x119D7), (0x119DA, 0x119E0),
  (0x119E4, 0x119E4), (0x11A01, 0x11A0A), (0x11A33, 0x11A39), (0x11A3B, 0x11A3E), (0x11A47, 0x11A47), (0x11A51, 0x11A5B),
  (0x11A8A, 0x11A99), (0x11C2F, 0x11C36), (0x11C38, 0x11C3F), (0x11C92, 0x11CA7), (0x11CA9, 0x11CB6), (0x11D31, 0x11D36),
  (0x11D3A, 0x11D3A), (0x11D3C, 0x11D3D), (0x11D3F, 0x11D45), (0x11D47, 0x11D47), (0x11D8A, 0x11D8E), (0x11D90, 0x11D91),
  (0x11D93, 0x11D97), (0x11EF3, 0x11EF6), (0x16AF0, 0x16AF4), (0x16B30, 0x16B36), (0x16F4F, 0x16F4F), (0x16F51, 0x16F87),
  (0x16F8F, 0x16F92), (0x16FE4, 0x16FE4), (0x16FF0, 0x16FF1), (0x1BC9D, 0x1BC9E), (0x1CF00, 0x1CF2D), (0x1CF30, 0x1CF46),
  (0x1D165, 0x1D169), (0x1D16D, 0x1D172), (0x1D17B, 0x1D182), (0x1D185, 0x1D18B), (0x1D1AA, 0x1D1AD), (0x1D242, 0x1D244),
  (0x1DA00, 0x1DA36), (0x1DA3B, 0x1DA6C), (0x1DA75, 0x1DA75), (0x1DA84, 0x1DA84), (0x1DA9B, 0x1DA9F), (0x1DAA1, 0x1DAAF),
  (0x1E000, 0x1E006), (0x1E008, 0x1E018), (0x1E01B, 0x1E021), (0x1E023, 0x1E024), (0x1E026, 0x1E02A), (0x1E130, 0x1E136),
  (0x1E2AE, 0x1E2AE), (0x1E2EC, 0x1E2EF), (0x1E8D0, 0x1E8D6), (0x1E944, 0x1E94A), (0xE0100, 0xE01EF)]

/-- Assigned code points without a name in the character database: the controls, the
surrogates, the private use areas, and the Tangut ideographs and components. -/
def unnamedSpans : Array (Nat × Nat) := #[
  (0x0, 0x1F), (0x7F, 0x9F), (0xD800, 0xF8FF), (0x17000, 0x187F7), (0x18D00, 0x18D08), (0xF0000, 0xFFFFD),
  (0x100000, 0x10FFFD)]

end Autoresponder.Text
