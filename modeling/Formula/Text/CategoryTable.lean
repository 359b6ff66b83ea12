import Formula.Text.Category

/-!
# The category table

The code points from zero up, cut into runs of one category each. A run is given by its first
code point and reaches to the start of the next. The runs follow version 16 of the Unicode
character database; what version 17 adds to it and has a shape of its own is `recent`, and its
other additions are `other`, as they are for version 16.
-/

namespace Formula.Category

def runsBelow0590 : List (Nat × Category) := [
  (0x0000, .other), (0x0020, .separator), (0x0021, .graphic), (0x0030, .decimalDigit),
  (0x003A, .graphic), (0x0041, .letter), (0x005B, .graphic), (0x005F, .connector),
  (0x0060, .graphic), (0x0061, .letter), (0x007B, .graphic), (0x007F, .other), (0x00A0, .separator),
  (0x00A1, .graphic), (0x00AA, .letter), (0x00AB, .graphic), (0x00AD, .other), (0x00AE, .graphic),
  (0x00B2, .otherNumber), (0x00B4, .graphic), (0x00B5, .letter), (0x00B6, .graphic),
  (0x00B9, .otherNumber), (0x00BA, .letter), (0x00BB, .graphic), (0x00BC, .otherNumber),
  (0x00BF, .graphic), (0x00C0, .letter), (0x00D7, .graphic), (0x00D8, .letter), (0x00F7, .graphic),
  (0x00F8, .letter), (0x02C2, .graphic), (0x02C6, .letter), (0x02D2, .graphic), (0x02E0, .letter),
  (0x02E5, .graphic), (0x02EC, .letter), (0x02ED, .graphic), (0x02EE, .letter), (0x02EF, .graphic),
  (0x0300, .extendingMark), (0x0370, .letter), (0x0375, .graphic), (0x0376, .letter),
  (0x0378, .other), (0x037A, .letter), (0x037E, .graphic), (0x037F, .letter), (0x0380, .other),
  (0x0384, .graphic), (0x0386, .letter), (0x0387, .graphic), (0x0388, .letter), (0x038B, .other),
  (0x038C, .letter), (0x038D, .other), (0x038E, .letter), (0x03A2, .other), (0x03A3, .letter),
  (0x03F6, .graphic), (0x03F7, .letter), (0x0482, .graphic), (0x0483, .extendingMark),
  (0x048A, .letter), (0x0530, .other), (0x0531, .letter), (0x0557, .other), (0x0559, .letter),
  (0x055A, .graphic), (0x0560, .letter), (0x0589, .graphic), (0x058B, .other), (0x058D, .graphic)]

def runsBelow0C00 : List (Nat × Category) := [
  (0x0590, .other), (0x0591, .extendingMark), (0x05BE, .graphic), (0x05BF, .extendingMark),
  (0x05C0, .graphic), (0x05C1, .extendingMark), (0x05C3, .graphic), (0x05C4, .extendingMark),
  (0x05C6, .graphic), (0x05C7, .extendingMark), (0x05C8, .other), (0x05D0, .letter),
  (0x05EB, .other), (0x05EF, .letter), (0x05F3, .graphic), (0x05F5, .other), (0x0606, .graphic),
  (0x0610, .extendingMark), (0x061B, .graphic), (0x061C, .other), (0x061D, .graphic),
  (0x0620, .letter), (0x064B, .extendingMark), (0x0660, .decimalDigit), (0x066A, .graphic),
  (0x066E, .letter), (0x0670, .extendingMark), (0x0671, .letter), (0x06D4, .graphic),
  (0x06D5, .letter), (0x06D6, .extendingMark), (0x06DD, .other), (0x06DE, .graphic),
  (0x06DF, .extendingMark), (0x06E5, .letter), (0x06E7, .extendingMark), (0x06E9, .graphic),
  (0x06EA, .extendingMark), (0x06EE, .letter), (0x06F0, .decimalDigit), (0x06FA, .letter),
  (0x06FD, .graphic), (0x06FF, .letter), (0x0700, .graphic), (0x070E, .other), (0x0710, .letter),
  (0x0711, .extendingMark), (0x0712, .letter), (0x0730, .extendingMark), (0x074B, .other),
  (0x074D, .letter), (0x07A6, .extendingMark), (0x07B1, .letter), (0x07B2, .other),
  (0x07C0, .decimalDigit), (0x07CA, .letter), (0x07EB, .extendingMark), (0x07F4, .letter),
  (0x07F6, .graphic), (0x07FA, .letter), (0x07FB, .other), (0x07FD, .extendingMark),
  (0x07FE, .graphic), (0x0800, .letter), (0x0816, .extendingMark), (0x081A, .letter),
  (0x081B, .extendingMark), (0x0824, .letter), (0x0825, .extendingMark), (0x0828, .letter),
  (0x0829, .extendingMark), (0x082E, .other), (0x0830, .graphic), (0x083F, .other),
  (0x0840, .letter), (0x0859, .extendingMark), (0x085C, .other), (0x085E, .graphic),
  (0x085F, .other), (0x0860, .letter), (0x086B, .other), (0x0870, .letter), (0x0888, .graphic),
  (0x0889, .letter), (0x088F, .recent), (0x0890, .other), (0x0897, .extendingMark),
  (0x08A0, .letter), (0x08CA, .extendingMark), (0x08E2, .other), (0x08E3, .extendingMark),
  (0x0903, .spacingMark), (0x0904, .letter), (0x093A, .extendingMark), (0x093B, .spacingMark),
  (0x093C, .extendingMark), (0x093D, .letter), (0x093E, .spacingMark), (0x0941, .extendingMark),
  (0x0949, .spacingMark), (0x094D, .extendingMark), (0x094E, .spacingMark), (0x0950, .letter),
  (0x0951, .extendingMark), (0x0958, .letter), (0x0962, .extendingMark), (0x0964, .graphic),
  (0x0966, .decimalDigit), (0x0970, .graphic), (0x0971, .letter), (0x0981, .extendingMark),
  (0x0982, .spacingMark), (0x0984, .other), (0x0985, .letter), (0x098D, .other), (0x098F, .letter),
  (0x0991, .other), (0x0993, .letter), (0x09A9, .other), (0x09AA, .letter), (0x09B1, .other),
  (0x09B2, .letter), (0x09B3, .other), (0x09B6, .letter), (0x09BA, .other),
  (0x09BC, .extendingMark), (0x09BD, .letter), (0x09BE, .extendingMark), (0x09BF, .spacingMark),
  (0x09C1, .extendingMark), (0x09C5, .other), (0x09C7, .spacingMark), (0x09C9, .other),
  (0x09CB, .spacingMark), (0x09CD, .extendingMark), (0x09CE, .letter), (0x09CF, .other),
  (0x09D7, .extendingMark), (0x09D8, .other), (0x09DC, .letter), (0x09DE, .other),
  (0x09DF, .letter), (0x09E2, .extendingMark), (0x09E4, .other), (0x09E6, .decimalDigit),
  (0x09F0, .letter), (0x09F2, .graphic), (0x09F4, .otherNumber), (0x09FA, .graphic),
  (0x09FC, .letter), (0x09FD, .graphic), (0x09FE, .extendingMark), (0x09FF, .other),
  (0x0A01, .extendingMark), (0x0A03, .spacingMark), (0x0A04, .other), (0x0A05, .letter),
  (0x0A0B, .other), (0x0A0F, .letter), (0x0A11, .other), (0x0A13, .letter), (0x0A29, .other),
  (0x0A2A, .letter), (0x0A31, .other), (0x0A32, .letter), (0x0A34, .other), (0x0A35, .letter),
  (0x0A37, .other), (0x0A38, .letter), (0x0A3A, .other), (0x0A3C, .extendingMark), (0x0A3D, .other),
  (0x0A3E, .spacingMark), (0x0A41, .extendingMark), (0x0A43, .other), (0x0A47, .extendingMark),
  (0x0A49, .other), (0x0A4B, .extendingMark), (0x0A4E, .other), (0x0A51, .extendingMark),
  (0x0A52, .other), (0x0A59, .letter), (0x0A5D, .other), (0x0A5E, .letter), (0x0A5F, .other),
  (0x0A66, .decimalDigit), (0x0A70, .extendingMark), (0x0A72, .letter), (0x0A75, .extendingMark),
  (0x0A76, .graphic), (0x0A77, .other), (0x0A81, .extendingMark), (0x0A83, .spacingMark),
  (0x0A84, .other), (0x0A85, .letter), (0x0A8E, .other), (0x0A8F, .letter), (0x0A92, .other),
  (0x0A93, .letter), (0x0AA9, .other), (0x0AAA, .letter), (0x0AB1, .other), (0x0AB2, .letter),
  (0x0AB4, .other), (0x0AB5, .letter), (0x0ABA, .other), (0x0ABC, .extendingMark),
  (0x0ABD, .letter), (0x0ABE, .spacingMark), (0x0AC1, .extendingMark), (0x0AC6, .other),
  (0x0AC7, .extendingMark), (0x0AC9, .spacingMark), (0x0ACA, .other), (0x0ACB, .spacingMark),
  (0x0ACD, .extendingMark), (0x0ACE, .other), (0x0AD0, .letter), (0x0AD1, .other),
  (0x0AE0, .letter), (0x0AE2, .extendingMark), (0x0AE4, .other), (0x0AE6, .decimalDigit),
  (0x0AF0, .graphic), (0x0AF2, .other), (0x0AF9, .letter), (0x0AFA, .extendingMark),
  (0x0B00, .other), (0x0B01, .extendingMark), (0x0B02, .spacingMark), (0x0B04, .other),
  (0x0B05, .letter), (0x0B0D, .other), (0x0B0F, .letter), (0x0B11, .other), (0x0B13, .letter),
  (0x0B29, .other), (0x0B2A, .letter), (0x0B31, .other), (0x0B32, .letter), (0x0B34, .other),
  (0x0B35, .letter), (0x0B3A, .other), (0x0B3C, .extendingMark), (0x0B3D, .letter),
  (0x0B3E, .extendingMark), (0x0B40, .spacingMark), (0x0B41, .extendingMark), (0x0B45, .other),
  (0x0B47, .spacingMark), (0x0B49, .other), (0x0B4B, .spacingMark), (0x0B4D, .extendingMark),
  (0x0B4E, .other), (0x0B55, .extendingMark), (0x0B58, .other), (0x0B5C, .letter), (0x0B5E, .other),
  (0x0B5F, .letter), (0x0B62, .extendingMark), (0x0B64, .other), (0x0B66, .decimalDigit),
  (0x0B70, .graphic), (0x0B71, .letter), (0x0B72, .otherNumber), (0x0B78, .other),
  (0x0B82, .extendingMark), (0x0B83, .letter), (0x0B84, .other), (0x0B85, .letter),
  (0x0B8B, .other), (0x0B8E, .letter), (0x0B91, .other), (0x0B92, .letter), (0x0B96, .other),
  (0x0B99, .letter), (0x0B9B, .other), (0x0B9C, .letter), (0x0B9D, .other), (0x0B9E, .letter),
  (0x0BA0, .other), (0x0BA3, .letter), (0x0BA5, .other), (0x0BA8, .letter), (0x0BAB, .other),
  (0x0BAE, .letter), (0x0BBA, .other), (0x0BBE, .extendingMark), (0x0BBF, .spacingMark),
  (0x0BC0, .extendingMark), (0x0BC1, .spacingMark), (0x0BC3, .other), (0x0BC6, .spacingMark),
  (0x0BC9, .other), (0x0BCA, .spacingMark), (0x0BCD, .extendingMark), (0x0BCE, .other),
  (0x0BD0, .letter), (0x0BD1, .other), (0x0BD7, .extendingMark), (0x0BD8, .other),
  (0x0BE6, .decimalDigit), (0x0BF0, .otherNumber), (0x0BF3, .graphic), (0x0BFB, .other)]

def runsBelow1100 : List (Nat × Category) := [
  (0x0C00, .extendingMark), (0x0C01, .spacingMark), (0x0C04, .extendingMark), (0x0C05, .letter),
  (0x0C0D, .other), (0x0C0E, .letter), (0x0C11, .other), (0x0C12, .letter), (0x0C29, .other),
  (0x0C2A, .letter), (0x0C3A, .other), (0x0C3C, .extendingMark), (0x0C3D, .letter),
  (0x0C3E, .extendingMark), (0x0C41, .spacingMark), (0x0C45, .other), (0x0C46, .extendingMark),
  (0x0C49, .other), (0x0C4A, .extendingMark), (0x0C4E, .other), (0x0C55, .extendingMark),
  (0x0C57, .other), (0x0C58, .letter), (0x0C5B, .other), (0x0C5C, .recent), (0x0C5D, .letter),
  (0x0C5E, .other), (0x0C60, .letter), (0x0C62, .extendingMark), (0x0C64, .other),
  (0x0C66, .decimalDigit), (0x0C70, .other), (0x0C77, .graphic), (0x0C78, .otherNumber),
  (0x0C7F, .graphic), (0x0C80, .letter), (0x0C81, .extendingMark), (0x0C82, .spacingMark),
  (0x0C84, .graphic), (0x0C85, .letter), (0x0C8D, .other), (0x0C8E, .letter), (0x0C91, .other),
  (0x0C92, .letter), (0x0CA9, .other), (0x0CAA, .letter), (0x0CB4, .other), (0x0CB5, .letter),
  (0x0CBA, .other), (0x0CBC, .extendingMark), (0x0CBD, .letter), (0x0CBE, .spacingMark),
  (0x0CBF, .extendingMark), (0x0CC1, .spacingMark), (0x0CC2, .extendingMark),
  (0x0CC3, .spacingMark), (0x0CC5, .other), (0x0CC6, .extendingMark), (0x0CC9, .other),
  (0x0CCA, .extendingMark), (0x0CCE, .other), (0x0CD5, .extendingMark), (0x0CD7, .other),
  (0x0CDC, .recent), (0x0CDD, .letter), (0x0CDF, .other), (0x0CE0, .letter),
  (0x0CE2, .extendingMark), (0x0CE4, .other), (0x0CE6, .decimalDigit), (0x0CF0, .other),
  (0x0CF1, .letter), (0x0CF3, .spacingMark), (0x0CF4, .other), (0x0D00, .extendingMark),
  (0x0D02, .spacingMark), (0x0D04, .letter), (0x0D0D, .other), (0x0D0E, .letter), (0x0D11, .other),
  (0x0D12, .letter), (0x0D3B, .extendingMark), (0x0D3D, .letter), (0x0D3E, .extendingMark),
  (0x0D3F, .spacingMark), (0x0D41, .extendingMark), (0x0D45, .other), (0x0D46, .spacingMark),
  (0x0D49, .other), (0x0D4A, .spacingMark), (0x0D4D, .extendingMark), (0x0D4E, .letter),
  (0x0D4F, .graphic), (0x0D50, .other), (0x0D54, .letter), (0x0D57, .extendingMark),
  (0x0D58, .otherNumber), (0x0D5F, .letter), (0x0D62, .extendingMark), (0x0D64, .other),
  (0x0D66, .decimalDigit), (0x0D70, .otherNumber), (0x0D79, .graphic), (0x0D7A, .letter),
  (0x0D80, .other), (0x0D81, .extendingMark), (0x0D82, .spacingMark), (0x0D84, .other),
  (0x0D85, .letter), (0x0D97, .other), (0x0D9A, .letter), (0x0DB2, .other), (0x0DB3, .letter),
  (0x0DBC, .other), (0x0DBD, .letter), (0x0DBE, .other), (0x0DC0, .letter), (0x0DC7, .other),
  (0x0DCA, .extendingMark), (0x0DCB, .other), (0x0DCF, .extendingMark), (0x0DD0, .spacingMark),
  (0x0DD2, .extendingMark), (0x0DD5, .other), (0x0DD6, .extendingMark), (0x0DD7, .other),
  (0x0DD8, .spacingMark), (0x0DDF, .extendingMark), (0x0DE0, .other), (0x0DE6, .decimalDigit),
  (0x0DF0, .other), (0x0DF2, .spacingMark), (0x0DF4, .graphic), (0x0DF5, .other), (0x0E01, .letter),
  (0x0E31, .extendingMark), (0x0E32, .letter), (0x0E34, .extendingMark), (0x0E3B, .other),
  (0x0E3F, .graphic), (0x0E40, .letter), (0x0E47, .extendingMark), (0x0E4F, .graphic),
  (0x0E50, .decimalDigit), (0x0E5A, .graphic), (0x0E5C, .other), (0x0E81, .letter),
  (0x0E83, .other), (0x0E84, .letter), (0x0E85, .other), (0x0E86, .letter), (0x0E8B, .other),
  (0x0E8C, .letter), (0x0EA4, .other), (0x0EA5, .letter), (0x0EA6, .other), (0x0EA7, .letter),
  (0x0EB1, .extendingMark), (0x0EB2, .letter), (0x0EB4, .extendingMark), (0x0EBD, .letter),
  (0x0EBE, .other), (0x0EC0, .letter), (0x0EC5, .other), (0x0EC6, .letter), (0x0EC7, .other),
  (0x0EC8, .extendingMark), (0x0ECF, .other), (0x0ED0, .decimalDigit), (0x0EDA, .other),
  (0x0EDC, .letter), (0x0EE0, .other), (0x0F00, .letter), (0x0F01, .graphic),
  (0x0F18, .extendingMark), (0x0F1A, .graphic), (0x0F20, .decimalDigit), (0x0F2A, .otherNumber),
  (0x0F34, .graphic), (0x0F35, .extendingMark), (0x0F36, .graphic), (0x0F37, .extendingMark),
  (0x0F38, .graphic), (0x0F39, .extendingMark), (0x0F3A, .graphic), (0x0F3E, .spacingMark),
  (0x0F40, .letter), (0x0F48, .other), (0x0F49, .letter), (0x0F6D, .other),
  (0x0F71, .extendingMark), (0x0F7F, .spacingMark), (0x0F80, .extendingMark), (0x0F85, .graphic),
  (0x0F86, .extendingMark), (0x0F88, .letter), (0x0F8D, .extendingMark), (0x0F98, .other),
  (0x0F99, .extendingMark), (0x0FBD, .other), (0x0FBE, .graphic), (0x0FC6, .extendingMark),
  (0x0FC7, .graphic), (0x0FCD, .other), (0x0FCE, .graphic), (0x0FDB, .other), (0x1000, .letter),
  (0x102B, .spacingMark), (0x102D, .extendingMark), (0x1031, .spacingMark),
  (0x1032, .extendingMark), (0x1038, .spacingMark), (0x1039, .extendingMark),
  (0x103B, .spacingMark), (0x103D, .extendingMark), (0x103F, .letter), (0x1040, .decimalDigit),
  (0x104A, .graphic), (0x1050, .letter), (0x1056, .spacingMark), (0x1058, .extendingMark),
  (0x105A, .letter), (0x105E, .extendingMark), (0x1061, .letter), (0x1062, .spacingMark),
  (0x1065, .letter), (0x1067, .spacingMark), (0x106E, .letter), (0x1071, .extendingMark),
  (0x1075, .letter), (0x1082, .extendingMark), (0x1083, .spacingMark), (0x1085, .extendingMark),
  (0x1087, .spacingMark), (0x108D, .extendingMark), (0x108E, .letter), (0x108F, .spacingMark),
  (0x1090, .decimalDigit), (0x109A, .spacingMark), (0x109D, .extendingMark), (0x109E, .graphic),
  (0x10A0, .letter), (0x10C6, .other), (0x10C7, .letter), (0x10C8, .other), (0x10CD, .letter),
  (0x10CE, .other), (0x10D0, .letter), (0x10FB, .graphic), (0x10FC, .letter)]

def runsBelow2000 : List (Nat × Category) := [
  (0x115F, .filler), (0x1161, .letter), (0x1249, .other), (0x124A, .letter), (0x124E, .other),
  (0x1250, .letter), (0x1257, .other), (0x1258, .letter), (0x1259, .other), (0x125A, .letter),
  (0x125E, .other), (0x1260, .letter), (0x1289, .other), (0x128A, .letter), (0x128E, .other),
  (0x1290, .letter), (0x12B1, .other), (0x12B2, .letter), (0x12B6, .other), (0x12B8, .letter),
  (0x12BF, .other), (0x12C0, .letter), (0x12C1, .other), (0x12C2, .letter), (0x12C6, .other),
  (0x12C8, .letter), (0x12D7, .other), (0x12D8, .letter), (0x1311, .other), (0x1312, .letter),
  (0x1316, .other), (0x1318, .letter), (0x135B, .other), (0x135D, .extendingMark),
  (0x1360, .graphic), (0x1369, .otherNumber), (0x137D, .other), (0x1380, .letter),
  (0x1390, .graphic), (0x139A, .other), (0x13A0, .letter), (0x13F6, .other), (0x13F8, .letter),
  (0x13FE, .other), (0x1400, .graphic), (0x1401, .letter), (0x166D, .graphic), (0x166F, .letter),
  (0x1680, .separator), (0x1681, .letter), (0x169B, .graphic), (0x169D, .other), (0x16A0, .letter),
  (0x16EB, .graphic), (0x16EE, .letterNumber), (0x16F1, .letter), (0x16F9, .other),
  (0x1700, .letter), (0x1712, .extendingMark), (0x1716, .other), (0x171F, .letter),
  (0x1732, .extendingMark), (0x1735, .graphic), (0x1737, .other), (0x1740, .letter),
  (0x1752, .extendingMark), (0x1754, .other), (0x1760, .letter), (0x176D, .other),
  (0x176E, .letter), (0x1771, .other), (0x1772, .extendingMark), (0x1774, .other),
  (0x1780, .letter), (0x17B4, .extendingMark), (0x17B6, .spacingMark), (0x17B7, .extendingMark),
  (0x17BE, .spacingMark), (0x17C6, .extendingMark), (0x17C7, .spacingMark),
  (0x17C9, .extendingMark), (0x17D4, .graphic), (0x17D7, .letter), (0x17D8, .graphic),
  (0x17DC, .letter), (0x17DD, .extendingMark), (0x17DE, .other), (0x17E0, .decimalDigit),
  (0x17EA, .other), (0x17F0, .otherNumber), (0x17FA, .other), (0x1800, .graphic),
  (0x180B, .extendingMark), (0x180E, .other), (0x180F, .extendingMark), (0x1810, .decimalDigit),
  (0x181A, .other), (0x1820, .letter), (0x1879, .other), (0x1880, .letter),
  (0x1885, .extendingMark), (0x1887, .letter), (0x18A9, .extendingMark), (0x18AA, .letter),
  (0x18AB, .other), (0x18B0, .letter), (0x18F6, .other), (0x1900, .letter), (0x191F, .other),
  (0x1920, .extendingMark), (0x1923, .spacingMark), (0x1927, .extendingMark),
  (0x1929, .spacingMark), (0x192C, .other), (0x1930, .spacingMark), (0x1932, .extendingMark),
  (0x1933, .spacingMark), (0x1939, .extendingMark), (0x193C, .other), (0x1940, .graphic),
  (0x1941, .other), (0x1944, .graphic), (0x1946, .decimalDigit), (0x1950, .letter),
  (0x196E, .other), (0x1970, .letter), (0x1975, .other), (0x1980, .letter), (0x19AC, .other),
  (0x19B0, .letter), (0x19CA, .other), (0x19D0, .decimalDigit), (0x19DA, .otherNumber),
  (0x19DB, .other), (0x19DE, .graphic), (0x1A00, .letter), (0x1A17, .extendingMark),
  (0x1A19, .spacingMark), (0x1A1B, .extendingMark), (0x1A1C, .other), (0x1A1E, .graphic),
  (0x1A20, .letter), (0x1A55, .spacingMark), (0x1A56, .extendingMark), (0x1A57, .spacingMark),
  (0x1A58, .extendingMark), (0x1A5F, .other), (0x1A60, .extendingMark), (0x1A61, .spacingMark),
  (0x1A62, .extendingMark), (0x1A63, .spacingMark), (0x1A65, .extendingMark),
  (0x1A6D, .spacingMark), (0x1A73, .extendingMark), (0x1A7D, .other), (0x1A7F, .extendingMark),
  (0x1A80, .decimalDigit), (0x1A8A, .other), (0x1A90, .decimalDigit), (0x1A9A, .other),
  (0x1AA0, .graphic), (0x1AA7, .letter), (0x1AA8, .graphic), (0x1AAE, .other),
  (0x1AB0, .extendingMark), (0x1ACF, .other), (0x1B00, .extendingMark), (0x1B04, .spacingMark),
  (0x1B05, .letter), (0x1B34, .extendingMark), (0x1B3E, .spacingMark), (0x1B42, .extendingMark),
  (0x1B45, .letter), (0x1B4D, .other), (0x1B4E, .graphic), (0x1B50, .decimalDigit),
  (0x1B5A, .graphic), (0x1B6B, .extendingMark), (0x1B74, .graphic), (0x1B80, .extendingMark),
  (0x1B82, .spacingMark), (0x1B83, .letter), (0x1BA1, .spacingMark), (0x1BA2, .extendingMark),
  (0x1BA6, .spacingMark), (0x1BA8, .extendingMark), (0x1BAE, .letter), (0x1BB0, .decimalDigit),
  (0x1BBA, .letter), (0x1BE6, .extendingMark), (0x1BE7, .spacingMark), (0x1BE8, .extendingMark),
  (0x1BEA, .spacingMark), (0x1BED, .extendingMark), (0x1BEE, .spacingMark),
  (0x1BEF, .extendingMark), (0x1BF4, .other), (0x1BFC, .graphic), (0x1C00, .letter),
  (0x1C24, .spacingMark), (0x1C2C, .extendingMark), (0x1C34, .spacingMark),
  (0x1C36, .extendingMark), (0x1C38, .other), (0x1C3B, .graphic), (0x1C40, .decimalDigit),
  (0x1C4A, .other), (0x1C4D, .letter), (0x1C50, .decimalDigit), (0x1C5A, .letter),
  (0x1C7E, .graphic), (0x1C80, .letter), (0x1C8B, .other), (0x1C90, .letter), (0x1CBB, .other),
  (0x1CBD, .letter), (0x1CC0, .graphic), (0x1CC8, .other), (0x1CD0, .extendingMark),
  (0x1CD3, .graphic), (0x1CD4, .extendingMark), (0x1CE1, .spacingMark), (0x1CE2, .extendingMark),
  (0x1CE9, .letter), (0x1CED, .extendingMark), (0x1CEE, .letter), (0x1CF4, .extendingMark),
  (0x1CF5, .letter), (0x1CF7, .spacingMark), (0x1CF8, .extendingMark), (0x1CFA, .letter),
  (0x1CFB, .other), (0x1D00, .letter), (0x1DC0, .extendingMark), (0x1E00, .letter),
  (0x1F16, .other), (0x1F18, .letter), (0x1F1E, .other), (0x1F20, .letter), (0x1F46, .other),
  (0x1F48, .letter), (0x1F4E, .other), (0x1F50, .letter), (0x1F58, .other), (0x1F59, .letter),
  (0x1F5A, .other), (0x1F5B, .letter), (0x1F5C, .other), (0x1F5D, .letter), (0x1F5E, .other),
  (0x1F5F, .letter), (0x1F7E, .other), (0x1F80, .letter), (0x1FB5, .other), (0x1FB6, .letter),
  (0x1FBD, .graphic), (0x1FBE, .letter), (0x1FBF, .graphic), (0x1FC2, .letter), (0x1FC5, .other),
  (0x1FC6, .letter), (0x1FCD, .graphic), (0x1FD0, .letter), (0x1FD4, .other), (0x1FD6, .letter),
  (0x1FDC, .other), (0x1FDD, .graphic), (0x1FE0, .letter), (0x1FED, .graphic), (0x1FF0, .other),
  (0x1FF2, .letter), (0x1FF5, .other), (0x1FF6, .letter), (0x1FFD, .graphic), (0x1FFF, .other)]

def runsBelow3000 : List (Nat × Category) := [
  (0x2000, .separator), (0x200B, .other), (0x200C, .joiner), (0x200E, .other), (0x2010, .graphic),
  (0x2028, .separator), (0x202A, .other), (0x202F, .separator), (0x2030, .graphic),
  (0x203F, .connector), (0x2041, .graphic), (0x2054, .connector), (0x2055, .graphic),
  (0x205F, .separator), (0x2060, .other), (0x2070, .otherNumber), (0x2071, .letter),
  (0x2072, .other), (0x2074, .otherNumber), (0x207A, .graphic), (0x207F, .letter),
  (0x2080, .otherNumber), (0x208A, .graphic), (0x208F, .other), (0x2090, .letter), (0x209D, .other),
  (0x20A0, .graphic), (0x20C1, .recent), (0x20C2, .other), (0x20D0, .extendingMark),
  (0x20F1, .other), (0x2100, .graphic), (0x2102, .letter), (0x2103, .graphic), (0x2107, .letter),
  (0x2108, .graphic), (0x210A, .letter), (0x2114, .graphic), (0x2115, .letter), (0x2116, .graphic),
  (0x2119, .letter), (0x211E, .graphic), (0x2124, .letter), (0x2125, .graphic), (0x2126, .letter),
  (0x2127, .graphic), (0x2128, .letter), (0x2129, .graphic), (0x212A, .letter), (0x212E, .graphic),
  (0x212F, .letter), (0x213A, .graphic), (0x213C, .letter), (0x2140, .graphic), (0x2145, .letter),
  (0x214A, .graphic), (0x214E, .letter), (0x214F, .graphic), (0x2150, .otherNumber),
  (0x2160, .letterNumber), (0x2183, .letter), (0x2185, .letterNumber), (0x2189, .otherNumber),
  (0x218A, .graphic), (0x218C, .other), (0x2190, .graphic), (0x242A, .other), (0x2440, .graphic),
  (0x244B, .other), (0x2460, .otherNumber), (0x249C, .graphic), (0x24B6, .letterlikeSymbol),
  (0x24EA, .otherNumber), (0x2500, .graphic), (0x2776, .otherNumber), (0x2794, .graphic),
  (0x2B74, .other), (0x2B76, .graphic), (0x2B96, .recent), (0x2B97, .graphic), (0x2C00, .letter),
  (0x2CE5, .graphic), (0x2CEB, .letter), (0x2CEF, .extendingMark), (0x2CF2, .letter),
  (0x2CF4, .other), (0x2CF9, .graphic), (0x2CFD, .otherNumber), (0x2CFE, .graphic),
  (0x2D00, .letter), (0x2D26, .other), (0x2D27, .letter), (0x2D28, .other), (0x2D2D, .letter),
  (0x2D2E, .other), (0x2D30, .letter), (0x2D68, .other), (0x2D6F, .letter), (0x2D70, .graphic),
  (0x2D71, .other), (0x2D7F, .extendingMark), (0x2D80, .letter), (0x2D97, .other),
  (0x2DA0, .letter), (0x2DA7, .other), (0x2DA8, .letter), (0x2DAF, .other), (0x2DB0, .letter),
  (0x2DB7, .other), (0x2DB8, .letter), (0x2DBF, .other), (0x2DC0, .letter), (0x2DC7, .other),
  (0x2DC8, .letter), (0x2DCF, .other), (0x2DD0, .letter), (0x2DD7, .other), (0x2DD8, .letter),
  (0x2DDF, .other), (0x2DE0, .extendingMark), (0x2E00, .graphic), (0x2E2F, .letter),
  (0x2E30, .graphic), (0x2E5E, .other), (0x2E80, .graphic), (0x2E9A, .other), (0x2E9B, .graphic),
  (0x2EF4, .other), (0x2F00, .graphic), (0x2FD6, .other), (0x2FF0, .graphic)]

def runsBelowAC00 : List (Nat × Category) := [
  (0x3000, .separator), (0x3001, .graphic), (0x3005, .letter), (0x3007, .letterNumber),
  (0x3008, .graphic), (0x3021, .letterNumber), (0x302A, .extendingMark), (0x3030, .graphic),
  (0x3031, .letter), (0x3036, .graphic), (0x3038, .letterNumber), (0x303B, .letter),
  (0x303D, .graphic), (0x3040, .other), (0x3041, .letter), (0x3097, .other),
  (0x3099, .extendingMark), (0x309B, .graphic), (0x309D, .letter), (0x30A0, .graphic),
  (0x30A1, .letter), (0x30FB, .graphic), (0x30FC, .letter), (0x3100, .other), (0x3105, .letter),
  (0x3130, .other), (0x3131, .letter), (0x3164, .filler), (0x3165, .letter), (0x318F, .other),
  (0x3190, .graphic), (0x3192, .otherNumber), (0x3196, .graphic), (0x31A0, .letter),
  (0x31C0, .graphic), (0x31E6, .other), (0x31EF, .graphic), (0x31F0, .letter), (0x3200, .graphic),
  (0x321F, .other), (0x3220, .otherNumber), (0x322A, .graphic), (0x3248, .otherNumber),
  (0x3250, .graphic), (0x3251, .otherNumber), (0x3260, .graphic), (0x3280, .otherNumber),
  (0x328A, .graphic), (0x32B1, .otherNumber), (0x32C0, .graphic), (0x3400, .letter),
  (0x4DC0, .graphic), (0x4E00, .letter), (0xA48D, .other), (0xA490, .graphic), (0xA4C7, .other),
  (0xA4D0, .letter), (0xA4FE, .graphic), (0xA500, .letter), (0xA60D, .graphic), (0xA610, .letter),
  (0xA620, .decimalDigit), (0xA62A, .letter), (0xA62C, .other), (0xA640, .letter),
  (0xA66F, .extendingMark), (0xA673, .graphic), (0xA674, .extendingMark), (0xA67E, .graphic),
  (0xA67F, .letter), (0xA69E, .extendingMark), (0xA6A0, .letter), (0xA6E6, .letterNumber),
  (0xA6F0, .extendingMark), (0xA6F2, .graphic), (0xA6F8, .other), (0xA700, .graphic),
  (0xA717, .letter), (0xA720, .graphic), (0xA722, .letter), (0xA789, .graphic), (0xA78B, .letter),
  (0xA7CE, .recent), (0xA7D0, .letter), (0xA7D2, .recent), (0xA7D3, .letter), (0xA7D4, .recent),
  (0xA7D5, .letter), (0xA7DD, .other), (0xA7F1, .recent), (0xA7F2, .letter),
  (0xA802, .extendingMark), (0xA803, .letter), (0xA806, .extendingMark), (0xA807, .letter),
  (0xA80B, .extendingMark), (0xA80C, .letter), (0xA823, .spacingMark), (0xA825, .extendingMark),
  (0xA827, .spacingMark), (0xA828, .graphic), (0xA82C, .extendingMark), (0xA82D, .other),
  (0xA830, .otherNumber), (0xA836, .graphic), (0xA83A, .other), (0xA840, .letter),
  (0xA874, .graphic), (0xA878, .other), (0xA880, .spacingMark), (0xA882, .letter),
  (0xA8B4, .spacingMark), (0xA8C4, .extendingMark), (0xA8C6, .other), (0xA8CE, .graphic),
  (0xA8D0, .decimalDigit), (0xA8DA, .other), (0xA8E0, .extendingMark), (0xA8F2, .letter),
  (0xA8F8, .graphic), (0xA8FB, .letter), (0xA8FC, .graphic), (0xA8FD, .letter),
  (0xA8FF, .extendingMark), (0xA900, .decimalDigit), (0xA90A, .letter), (0xA926, .extendingMark),
  (0xA92E, .graphic), (0xA930, .letter), (0xA947, .extendingMark), (0xA952, .spacingMark),
  (0xA953, .extendingMark), (0xA954, .other), (0xA95F, .graphic), (0xA960, .letter),
  (0xA97D, .other), (0xA980, .extendingMark), (0xA983, .spacingMark), (0xA984, .letter),
  (0xA9B3, .extendingMark), (0xA9B4, .spacingMark), (0xA9B6, .extendingMark),
  (0xA9BA, .spacingMark), (0xA9BC, .extendingMark), (0xA9BE, .spacingMark),
  (0xA9C0, .extendingMark), (0xA9C1, .graphic), (0xA9CE, .other), (0xA9CF, .letter),
  (0xA9D0, .decimalDigit), (0xA9DA, .other), (0xA9DE, .graphic), (0xA9E0, .letter),
  (0xA9E5, .extendingMark), (0xA9E6, .letter), (0xA9F0, .decimalDigit), (0xA9FA, .letter),
  (0xA9FF, .other), (0xAA00, .letter), (0xAA29, .extendingMark), (0xAA2F, .spacingMark),
  (0xAA31, .extendingMark), (0xAA33, .spacingMark), (0xAA35, .extendingMark), (0xAA37, .other),
  (0xAA40, .letter), (0xAA43, .extendingMark), (0xAA44, .letter), (0xAA4C, .extendingMark),
  (0xAA4D, .spacingMark), (0xAA4E, .other), (0xAA50, .decimalDigit), (0xAA5A, .other),
  (0xAA5C, .graphic), (0xAA60, .letter), (0xAA77, .graphic), (0xAA7A, .letter),
  (0xAA7B, .spacingMark), (0xAA7C, .extendingMark), (0xAA7D, .spacingMark), (0xAA7E, .letter),
  (0xAAB0, .extendingMark), (0xAAB1, .letter), (0xAAB2, .extendingMark), (0xAAB5, .letter),
  (0xAAB7, .extendingMark), (0xAAB9, .letter), (0xAABE, .extendingMark), (0xAAC0, .letter),
  (0xAAC1, .extendingMark), (0xAAC2, .letter), (0xAAC3, .other), (0xAADB, .letter),
  (0xAADE, .graphic), (0xAAE0, .letter), (0xAAEB, .spacingMark), (0xAAEC, .extendingMark),
  (0xAAEE, .spacingMark), (0xAAF0, .graphic), (0xAAF2, .letter), (0xAAF5, .spacingMark),
  (0xAAF6, .extendingMark), (0xAAF7, .other), (0xAB01, .letter), (0xAB07, .other),
  (0xAB09, .letter), (0xAB0F, .other), (0xAB11, .letter), (0xAB17, .other), (0xAB20, .letter),
  (0xAB27, .other), (0xAB28, .letter), (0xAB2F, .other), (0xAB30, .letter), (0xAB5B, .graphic),
  (0xAB5C, .letter), (0xAB6A, .graphic), (0xAB6C, .other), (0xAB70, .letter),
  (0xABE3, .spacingMark), (0xABE5, .extendingMark), (0xABE6, .spacingMark),
  (0xABE8, .extendingMark), (0xABE9, .spacingMark), (0xABEB, .graphic), (0xABEC, .spacingMark),
  (0xABED, .extendingMark), (0xABEE, .other), (0xABF0, .decimalDigit), (0xABFA, .other)]

def runsBelow10000 : List (Nat × Category) := [
  (0xAC00, .letter), (0xD7A4, .other), (0xD7B0, .letter), (0xD7C7, .other), (0xD7CB, .letter),
  (0xD7FC, .other), (0xF900, .letter), (0xFA6E, .other), (0xFA70, .letter), (0xFADA, .other),
  (0xFB00, .letter), (0xFB07, .other), (0xFB13, .letter), (0xFB18, .other), (0xFB1D, .letter),
  (0xFB1E, .extendingMark), (0xFB1F, .letter), (0xFB29, .graphic), (0xFB2A, .letter),
  (0xFB37, .other), (0xFB38, .letter), (0xFB3D, .other), (0xFB3E, .letter), (0xFB3F, .other),
  (0xFB40, .letter), (0xFB42, .other), (0xFB43, .letter), (0xFB45, .other), (0xFB46, .letter),
  (0xFBB2, .graphic), (0xFBC3, .recent), (0xFBD3, .letter), (0xFD3E, .graphic), (0xFD50, .letter),
  (0xFD90, .recent), (0xFD92, .letter), (0xFDC8, .recent), (0xFDCF, .graphic), (0xFDD0, .other),
  (0xFDF0, .letter), (0xFDFC, .graphic), (0xFE00, .extendingMark), (0xFE10, .graphic),
  (0xFE1A, .other), (0xFE20, .extendingMark), (0xFE30, .graphic), (0xFE33, .connector),
  (0xFE35, .graphic), (0xFE4D, .connector), (0xFE50, .graphic), (0xFE53, .other),
  (0xFE54, .graphic), (0xFE67, .other), (0xFE68, .graphic), (0xFE6C, .other), (0xFE70, .letter),
  (0xFE75, .other), (0xFE76, .letter), (0xFEFD, .other), (0xFF01, .graphic),
  (0xFF10, .decimalDigit), (0xFF1A, .graphic), (0xFF21, .letter), (0xFF3B, .graphic),
  (0xFF3F, .connector), (0xFF40, .graphic), (0xFF41, .letter), (0xFF5B, .graphic),
  (0xFF66, .letter), (0xFFA0, .filler), (0xFFA1, .letter), (0xFFBF, .other), (0xFFC2, .letter),
  (0xFFC8, .other), (0xFFCA, .letter), (0xFFD0, .other), (0xFFD2, .letter), (0xFFD8, .other),
  (0xFFDA, .letter), (0xFFDD, .other), (0xFFE0, .graphic), (0xFFE7, .other), (0xFFE8, .graphic),
  (0xFFEF, .other), (0xFFFC, .graphic), (0xFFFE, .other)]

def runsBelow11000 : List (Nat × Category) := [
  (0x10000, .letter), (0x1000C, .other), (0x1000D, .letter), (0x10027, .other), (0x10028, .letter),
  (0x1003B, .other), (0x1003C, .letter), (0x1003E, .other), (0x1003F, .letter), (0x1004E, .other),
  (0x10050, .letter), (0x1005E, .other), (0x10080, .letter), (0x100FB, .other), (0x10100, .graphic),
  (0x10103, .other), (0x10107, .otherNumber), (0x10134, .other), (0x10137, .graphic),
  (0x10140, .letterNumber), (0x10175, .otherNumber), (0x10179, .graphic), (0x1018A, .otherNumber),
  (0x1018C, .graphic), (0x1018F, .other), (0x10190, .graphic), (0x1019D, .other),
  (0x101A0, .graphic), (0x101A1, .other), (0x101D0, .graphic), (0x101FD, .extendingMark),
  (0x101FE, .other), (0x10280, .letter), (0x1029D, .other), (0x102A0, .letter), (0x102D1, .other),
  (0x102E0, .extendingMark), (0x102E1, .otherNumber), (0x102FC, .other), (0x10300, .letter),
  (0x10320, .otherNumber), (0x10324, .other), (0x1032D, .letter), (0x10341, .letterNumber),
  (0x10342, .letter), (0x1034A, .letterNumber), (0x1034B, .other), (0x10350, .letter),
  (0x10376, .extendingMark), (0x1037B, .other), (0x10380, .letter), (0x1039E, .other),
  (0x1039F, .graphic), (0x103A0, .letter), (0x103C4, .other), (0x103C8, .letter),
  (0x103D0, .graphic), (0x103D1, .letterNumber), (0x103D6, .other), (0x10400, .letter),
  (0x1049E, .other), (0x104A0, .decimalDigit), (0x104AA, .other), (0x104B0, .letter),
  (0x104D4, .other), (0x104D8, .letter), (0x104FC, .other), (0x10500, .letter), (0x10528, .other),
  (0x10530, .letter), (0x10564, .other), (0x1056F, .graphic), (0x10570, .letter), (0x1057B, .other),
  (0x1057C, .letter), (0x1058B, .other), (0x1058C, .letter), (0x10593, .other), (0x10594, .letter),
  (0x10596, .other), (0x10597, .letter), (0x105A2, .other), (0x105A3, .letter), (0x105B2, .other),
  (0x105B3, .letter), (0x105BA, .other), (0x105BB, .letter), (0x105BD, .other), (0x105C0, .letter),
  (0x105F4, .other), (0x10600, .letter), (0x10737, .other), (0x10740, .letter), (0x10756, .other),
  (0x10760, .letter), (0x10768, .other), (0x10780, .letter), (0x10786, .other), (0x10787, .letter),
  (0x107B1, .other), (0x107B2, .letter), (0x107BB, .other), (0x10800, .letter), (0x10806, .other),
  (0x10808, .letter), (0x10809, .other), (0x1080A, .letter), (0x10836, .other), (0x10837, .letter),
  (0x10839, .other), (0x1083C, .letter), (0x1083D, .other), (0x1083F, .letter), (0x10856, .other),
  (0x10857, .graphic), (0x10858, .otherNumber), (0x10860, .letter), (0x10877, .graphic),
  (0x10879, .otherNumber), (0x10880, .letter), (0x1089F, .other), (0x108A7, .otherNumber),
  (0x108B0, .other), (0x108E0, .letter), (0x108F3, .other), (0x108F4, .letter), (0x108F6, .other),
  (0x108FB, .otherNumber), (0x10900, .letter), (0x10916, .otherNumber), (0x1091C, .other),
  (0x1091F, .graphic), (0x10920, .letter), (0x1093A, .other), (0x1093F, .graphic),
  (0x10940, .recent), (0x1095A, .other), (0x10980, .letter), (0x109B8, .other),
  (0x109BC, .otherNumber), (0x109BE, .letter), (0x109C0, .otherNumber), (0x109D0, .other),
  (0x109D2, .otherNumber), (0x10A00, .letter), (0x10A01, .extendingMark), (0x10A04, .other),
  (0x10A05, .extendingMark), (0x10A07, .other), (0x10A0C, .extendingMark), (0x10A10, .letter),
  (0x10A14, .other), (0x10A15, .letter), (0x10A18, .other), (0x10A19, .letter), (0x10A36, .other),
  (0x10A38, .extendingMark), (0x10A3B, .other), (0x10A3F, .extendingMark), (0x10A40, .otherNumber),
  (0x10A49, .other), (0x10A50, .graphic), (0x10A59, .other), (0x10A60, .letter),
  (0x10A7D, .otherNumber), (0x10A7F, .graphic), (0x10A80, .letter), (0x10A9D, .otherNumber),
  (0x10AA0, .other), (0x10AC0, .letter), (0x10AC8, .graphic), (0x10AC9, .letter),
  (0x10AE5, .extendingMark), (0x10AE7, .other), (0x10AEB, .otherNumber), (0x10AF0, .graphic),
  (0x10AF7, .other), (0x10B00, .letter), (0x10B36, .other), (0x10B39, .graphic), (0x10B40, .letter),
  (0x10B56, .other), (0x10B58, .otherNumber), (0x10B60, .letter), (0x10B73, .other),
  (0x10B78, .otherNumber), (0x10B80, .letter), (0x10B92, .other), (0x10B99, .graphic),
  (0x10B9D, .other), (0x10BA9, .otherNumber), (0x10BB0, .other), (0x10C00, .letter),
  (0x10C49, .other), (0x10C80, .letter), (0x10CB3, .other), (0x10CC0, .letter), (0x10CF3, .other),
  (0x10CFA, .otherNumber), (0x10D00, .letter), (0x10D24, .extendingMark), (0x10D28, .other),
  (0x10D30, .decimalDigit), (0x10D3A, .other), (0x10D40, .decimalDigit), (0x10D4A, .letter),
  (0x10D66, .other), (0x10D69, .extendingMark), (0x10D6E, .graphic), (0x10D6F, .letter),
  (0x10D86, .other), (0x10D8E, .graphic), (0x10D90, .other), (0x10E60, .otherNumber),
  (0x10E7F, .other), (0x10E80, .letter), (0x10EAA, .other), (0x10EAB, .extendingMark),
  (0x10EAD, .graphic), (0x10EAE, .other), (0x10EB0, .letter), (0x10EB2, .other), (0x10EC2, .letter),
  (0x10EC5, .recent), (0x10EC8, .other), (0x10ED0, .recent), (0x10ED9, .other),
  (0x10EFC, .extendingMark), (0x10F00, .letter), (0x10F1D, .otherNumber), (0x10F27, .letter),
  (0x10F28, .other), (0x10F30, .letter), (0x10F46, .extendingMark), (0x10F51, .otherNumber),
  (0x10F55, .graphic), (0x10F5A, .other), (0x10F70, .letter), (0x10F82, .extendingMark),
  (0x10F86, .graphic), (0x10F8A, .other), (0x10FB0, .letter), (0x10FC5, .otherNumber),
  (0x10FCC, .other), (0x10FE0, .letter), (0x10FF7, .other)]

def runsBelow12000 : List (Nat × Category) := [
  (0x11000, .spacingMark), (0x11001, .extendingMark), (0x11002, .spacingMark), (0x11003, .letter),
  (0x11038, .extendingMark), (0x11047, .graphic), (0x1104E, .other), (0x11052, .otherNumber),
  (0x11066, .decimalDigit), (0x11070, .extendingMark), (0x11071, .letter),
  (0x11073, .extendingMark), (0x11075, .letter), (0x11076, .other), (0x1107F, .extendingMark),
  (0x11082, .spacingMark), (0x11083, .letter), (0x110B0, .spacingMark), (0x110B3, .extendingMark),
  (0x110B7, .spacingMark), (0x110B9, .extendingMark), (0x110BB, .graphic), (0x110BD, .other),
  (0x110BE, .graphic), (0x110C2, .extendingMark), (0x110C3, .other), (0x110D0, .letter),
  (0x110E9, .other), (0x110F0, .decimalDigit), (0x110FA, .other), (0x11100, .extendingMark),
  (0x11103, .letter), (0x11127, .extendingMark), (0x1112C, .spacingMark), (0x1112D, .extendingMark),
  (0x11135, .other), (0x11136, .decimalDigit), (0x11140, .graphic), (0x11144, .letter),
  (0x11145, .spacingMark), (0x11147, .letter), (0x11148, .other), (0x11150, .letter),
  (0x11173, .extendingMark), (0x11174, .graphic), (0x11176, .letter), (0x11177, .other),
  (0x11180, .extendingMark), (0x11182, .spacingMark), (0x11183, .letter), (0x111B3, .spacingMark),
  (0x111B6, .extendingMark), (0x111BF, .spacingMark), (0x111C0, .extendingMark), (0x111C1, .letter),
  (0x111C5, .graphic), (0x111C9, .extendingMark), (0x111CD, .graphic), (0x111CE, .spacingMark),
  (0x111CF, .extendingMark), (0x111D0, .decimalDigit), (0x111DA, .letter), (0x111DB, .graphic),
  (0x111DC, .letter), (0x111DD, .graphic), (0x111E0, .other), (0x111E1, .otherNumber),
  (0x111F5, .other), (0x11200, .letter), (0x11212, .other), (0x11213, .letter),
  (0x1122C, .spacingMark), (0x1122F, .extendingMark), (0x11232, .spacingMark),
  (0x11234, .extendingMark), (0x11238, .graphic), (0x1123E, .extendingMark), (0x1123F, .letter),
  (0x11241, .extendingMark), (0x11242, .other), (0x11280, .letter), (0x11287, .other),
  (0x11288, .letter), (0x11289, .other), (0x1128A, .letter), (0x1128E, .other), (0x1128F, .letter),
  (0x1129E, .other), (0x1129F, .letter), (0x112A9, .graphic), (0x112AA, .other), (0x112B0, .letter),
  (0x112DF, .extendingMark), (0x112E0, .spacingMark), (0x112E3, .extendingMark), (0x112EB, .other),
  (0x112F0, .decimalDigit), (0x112FA, .other), (0x11300, .extendingMark), (0x11302, .spacingMark),
  (0x11304, .other), (0x11305, .letter), (0x1130D, .other), (0x1130F, .letter), (0x11311, .other),
  (0x11313, .letter), (0x11329, .other), (0x1132A, .letter), (0x11331, .other), (0x11332, .letter),
  (0x11334, .other), (0x11335, .letter), (0x1133A, .other), (0x1133B, .extendingMark),
  (0x1133D, .letter), (0x1133E, .extendingMark), (0x1133F, .spacingMark), (0x11340, .extendingMark),
  (0x11341, .spacingMark), (0x11345, .other), (0x11347, .spacingMark), (0x11349, .other),
  (0x1134B, .spacingMark), (0x1134D, .extendingMark), (0x1134E, .other), (0x11350, .letter),
  (0x11351, .other), (0x11357, .extendingMark), (0x11358, .other), (0x1135D, .letter),
  (0x11362, .spacingMark), (0x11364, .other), (0x11366, .extendingMark), (0x1136D, .other),
  (0x11370, .extendingMark), (0x11375, .other), (0x11380, .letter), (0x1138A, .other),
  (0x1138B, .letter), (0x1138C, .other), (0x1138E, .letter), (0x1138F, .other), (0x11390, .letter),
  (0x113B6, .other), (0x113B7, .letter), (0x113B8, .extendingMark), (0x113B9, .spacingMark),
  (0x113BB, .extendingMark), (0x113C1, .other), (0x113C2, .extendingMark), (0x113C3, .other),
  (0x113C5, .extendingMark), (0x113C6, .other), (0x113C7, .extendingMark), (0x113CA, .spacingMark),
  (0x113CB, .other), (0x113CC, .spacingMark), (0x113CE, .extendingMark), (0x113D1, .letter),
  (0x113D2, .extendingMark), (0x113D3, .letter), (0x113D4, .graphic), (0x113D6, .other),
  (0x113D7, .graphic), (0x113D9, .other), (0x113E1, .extendingMark), (0x113E3, .other),
  (0x11400, .letter), (0x11435, .spacingMark), (0x11438, .extendingMark), (0x11440, .spacingMark),
  (0x11442, .extendingMark), (0x11445, .spacingMark), (0x11446, .extendingMark), (0x11447, .letter),
  (0x1144B, .graphic), (0x11450, .decimalDigit), (0x1145A, .graphic), (0x1145C, .other),
  (0x1145D, .graphic), (0x1145E, .extendingMark), (0x1145F, .letter), (0x11462, .other),
  (0x11480, .letter), (0x114B0, .extendingMark), (0x114B1, .spacingMark), (0x114B3, .extendingMark),
  (0x114B9, .spacingMark), (0x114BA, .extendingMark), (0x114BB, .spacingMark),
  (0x114BD, .extendingMark), (0x114BE, .spacingMark), (0x114BF, .extendingMark),
  (0x114C1, .spacingMark), (0x114C2, .extendingMark), (0x114C4, .letter), (0x114C6, .graphic),
  (0x114C7, .letter), (0x114C8, .other), (0x114D0, .decimalDigit), (0x114DA, .other),
  (0x11580, .letter), (0x115AF, .extendingMark), (0x115B0, .spacingMark), (0x115B2, .extendingMark),
  (0x115B6, .other), (0x115B8, .spacingMark), (0x115BC, .extendingMark), (0x115BE, .spacingMark),
  (0x115BF, .extendingMark), (0x115C1, .graphic), (0x115D8, .letter), (0x115DC, .extendingMark),
  (0x115DE, .other), (0x11600, .letter), (0x11630, .spacingMark), (0x11633, .extendingMark),
  (0x1163B, .spacingMark), (0x1163D, .extendingMark), (0x1163E, .spacingMark),
  (0x1163F, .extendingMark), (0x11641, .graphic), (0x11644, .letter), (0x11645, .other),
  (0x11650, .decimalDigit), (0x1165A, .other), (0x11660, .graphic), (0x1166D, .other),
  (0x11680, .letter), (0x116AB, .extendingMark), (0x116AC, .spacingMark), (0x116AD, .extendingMark),
  (0x116AE, .spacingMark), (0x116B0, .extendingMark), (0x116B8, .letter), (0x116B9, .graphic),
  (0x116BA, .other), (0x116C0, .decimalDigit), (0x116CA, .other), (0x116D0, .decimalDigit),
  (0x116E4, .other), (0x11700, .letter), (0x1171B, .other), (0x1171D, .extendingMark),
  (0x1171E, .spacingMark), (0x1171F, .extendingMark), (0x11720, .spacingMark),
  (0x11722, .extendingMark), (0x11726, .spacingMark), (0x11727, .extendingMark), (0x1172C, .other),
  (0x11730, .decimalDigit), (0x1173A, .otherNumber), (0x1173C, .graphic), (0x11740, .letter),
  (0x11747, .other), (0x11800, .letter), (0x1182C, .spacingMark), (0x1182F, .extendingMark),
  (0x11838, .spacingMark), (0x11839, .extendingMark), (0x1183B, .graphic), (0x1183C, .other),
  (0x118A0, .letter), (0x118E0, .decimalDigit), (0x118EA, .otherNumber), (0x118F3, .other),
  (0x118FF, .letter), (0x11907, .other), (0x11909, .letter), (0x1190A, .other), (0x1190C, .letter),
  (0x11914, .other), (0x11915, .letter), (0x11917, .other), (0x11918, .letter),
  (0x11930, .extendingMark), (0x11931, .spacingMark), (0x11936, .other), (0x11937, .spacingMark),
  (0x11939, .other), (0x1193B, .extendingMark), (0x1193F, .letter), (0x11940, .spacingMark),
  (0x11941, .letter), (0x11942, .spacingMark), (0x11943, .extendingMark), (0x11944, .graphic),
  (0x11947, .other), (0x11950, .decimalDigit), (0x1195A, .other), (0x119A0, .letter),
  (0x119A8, .other), (0x119AA, .letter), (0x119D1, .spacingMark), (0x119D4, .extendingMark),
  (0x119D8, .other), (0x119DA, .extendingMark), (0x119DC, .spacingMark), (0x119E0, .extendingMark),
  (0x119E1, .letter), (0x119E2, .graphic), (0x119E3, .letter), (0x119E4, .spacingMark),
  (0x119E5, .other), (0x11A00, .letter), (0x11A01, .extendingMark), (0x11A0B, .letter),
  (0x11A33, .extendingMark), (0x11A39, .spacingMark), (0x11A3A, .letter), (0x11A3B, .extendingMark),
  (0x11A3F, .graphic), (0x11A47, .extendingMark), (0x11A48, .other), (0x11A50, .letter),
  (0x11A51, .extendingMark), (0x11A57, .spacingMark), (0x11A59, .extendingMark), (0x11A5C, .letter),
  (0x11A8A, .extendingMark), (0x11A97, .spacingMark), (0x11A98, .extendingMark),
  (0x11A9A, .graphic), (0x11A9D, .letter), (0x11A9E, .graphic), (0x11AA3, .other),
  (0x11AB0, .letter), (0x11AF9, .other), (0x11B00, .graphic), (0x11B0A, .other), (0x11B61, .recent),
  (0x11B62, .other), (0x11B65, .recent), (0x11B66, .other), (0x11B67, .recent), (0x11B68, .other),
  (0x11BC0, .letter), (0x11BE1, .graphic), (0x11BE2, .other), (0x11BF0, .decimalDigit),
  (0x11BFA, .other), (0x11C00, .letter), (0x11C09, .other), (0x11C0A, .letter),
  (0x11C2F, .spacingMark), (0x11C30, .extendingMark), (0x11C37, .other), (0x11C38, .extendingMark),
  (0x11C3E, .spacingMark), (0x11C3F, .extendingMark), (0x11C40, .letter), (0x11C41, .graphic),
  (0x11C46, .other), (0x11C50, .decimalDigit), (0x11C5A, .otherNumber), (0x11C6D, .other),
  (0x11C70, .graphic), (0x11C72, .letter), (0x11C90, .other), (0x11C92, .extendingMark),
  (0x11CA8, .other), (0x11CA9, .spacingMark), (0x11CAA, .extendingMark), (0x11CB1, .spacingMark),
  (0x11CB2, .extendingMark), (0x11CB4, .spacingMark), (0x11CB5, .extendingMark), (0x11CB7, .other),
  (0x11D00, .letter), (0x11D07, .other), (0x11D08, .letter), (0x11D0A, .other), (0x11D0B, .letter),
  (0x11D31, .extendingMark), (0x11D37, .other), (0x11D3A, .extendingMark), (0x11D3B, .other),
  (0x11D3C, .extendingMark), (0x11D3E, .other), (0x11D3F, .extendingMark), (0x11D46, .letter),
  (0x11D47, .extendingMark), (0x11D48, .other), (0x11D50, .decimalDigit), (0x11D5A, .other),
  (0x11D60, .letter), (0x11D66, .other), (0x11D67, .letter), (0x11D69, .other), (0x11D6A, .letter),
  (0x11D8A, .spacingMark), (0x11D8F, .other), (0x11D90, .extendingMark), (0x11D92, .other),
  (0x11D93, .spacingMark), (0x11D95, .extendingMark), (0x11D96, .spacingMark),
  (0x11D97, .extendingMark), (0x11D98, .letter), (0x11D99, .other), (0x11DA0, .decimalDigit),
  (0x11DAA, .other), (0x11DB0, .recent), (0x11DDC, .other), (0x11DE0, .recent), (0x11DEA, .other),
  (0x11EE0, .letter), (0x11EF3, .extendingMark), (0x11EF5, .spacingMark), (0x11EF7, .graphic),
  (0x11EF9, .other), (0x11F00, .extendingMark), (0x11F02, .letter), (0x11F03, .spacingMark),
  (0x11F04, .letter), (0x11F11, .other), (0x11F12, .letter), (0x11F34, .spacingMark),
  (0x11F36, .extendingMark), (0x11F3B, .other), (0x11F3E, .spacingMark), (0x11F40, .extendingMark),
  (0x11F43, .graphic), (0x11F50, .decimalDigit), (0x11F5A, .extendingMark), (0x11F5B, .other),
  (0x11FB0, .letter), (0x11FB1, .other), (0x11FC0, .otherNumber), (0x11FD5, .graphic),
  (0x11FF2, .other), (0x11FFF, .graphic)]

def runsBelow1D000 : List (Nat × Category) := [
  (0x12000, .letter), (0x1239A, .other), (0x12400, .letterNumber), (0x1246F, .other),
  (0x12470, .graphic), (0x12475, .other), (0x12480, .letter), (0x12544, .other), (0x12F90, .letter),
  (0x12FF1, .graphic), (0x12FF3, .other), (0x13000, .letter), (0x13430, .other),
  (0x13440, .extendingMark), (0x13441, .letter), (0x13447, .extendingMark), (0x13456, .other),
  (0x13460, .letter), (0x143FB, .other), (0x14400, .letter), (0x14647, .other), (0x16100, .letter),
  (0x1611E, .extendingMark), (0x1612A, .spacingMark), (0x1612D, .extendingMark),
  (0x16130, .decimalDigit), (0x1613A, .other), (0x16800, .letter), (0x16A39, .other),
  (0x16A40, .letter), (0x16A5F, .other), (0x16A60, .decimalDigit), (0x16A6A, .other),
  (0x16A6E, .graphic), (0x16A70, .letter), (0x16ABF, .other), (0x16AC0, .decimalDigit),
  (0x16ACA, .other), (0x16AD0, .letter), (0x16AEE, .other), (0x16AF0, .extendingMark),
  (0x16AF5, .graphic), (0x16AF6, .other), (0x16B00, .letter), (0x16B30, .extendingMark),
  (0x16B37, .graphic), (0x16B40, .letter), (0x16B44, .graphic), (0x16B46, .other),
  (0x16B50, .decimalDigit), (0x16B5A, .other), (0x16B5B, .otherNumber), (0x16B62, .other),
  (0x16B63, .letter), (0x16B78, .other), (0x16B7D, .letter), (0x16B90, .other), (0x16D40, .letter),
  (0x16D6D, .graphic), (0x16D70, .decimalDigit), (0x16D7A, .other), (0x16E40, .letter),
  (0x16E80, .otherNumber), (0x16E97, .graphic), (0x16E9B, .other), (0x16EA0, .recent),
  (0x16EB9, .other), (0x16EBB, .recent), (0x16ED4, .other), (0x16F00, .letter), (0x16F4B, .other),
  (0x16F4F, .extendingMark), (0x16F50, .letter), (0x16F51, .spacingMark), (0x16F88, .other),
  (0x16F8F, .extendingMark), (0x16F93, .letter), (0x16FA0, .other), (0x16FE0, .letter),
  (0x16FE2, .graphic), (0x16FE3, .letter), (0x16FE4, .extendingMark), (0x16FE5, .other),
  (0x16FF0, .extendingMark), (0x16FF2, .recent), (0x16FF7, .other), (0x17000, .letter),
  (0x187F8, .recent), (0x18800, .letter), (0x18CD6, .other), (0x18CFF, .letter), (0x18D09, .recent),
  (0x18D1F, .other), (0x18D80, .recent), (0x18DF3, .other), (0x1AFF0, .letter), (0x1AFF4, .other),
  (0x1AFF5, .letter), (0x1AFFC, .other), (0x1AFFD, .letter), (0x1AFFF, .other), (0x1B000, .letter),
  (0x1B123, .other), (0x1B132, .letter), (0x1B133, .other), (0x1B150, .letter), (0x1B153, .other),
  (0x1B155, .letter), (0x1B156, .other), (0x1B164, .letter), (0x1B168, .other), (0x1B170, .letter),
  (0x1B2FC, .other), (0x1BC00, .letter), (0x1BC6B, .other), (0x1BC70, .letter), (0x1BC7D, .other),
  (0x1BC80, .letter), (0x1BC89, .other), (0x1BC90, .letter), (0x1BC9A, .other), (0x1BC9C, .graphic),
  (0x1BC9D, .extendingMark), (0x1BC9F, .graphic), (0x1BCA0, .other), (0x1CC00, .graphic),
  (0x1CCF0, .decimalDigit), (0x1CCFA, .recent), (0x1CCFD, .other), (0x1CD00, .graphic),
  (0x1CEB4, .other), (0x1CEBA, .recent), (0x1CED1, .other), (0x1CEE0, .recent), (0x1CEF1, .other),
  (0x1CF00, .extendingMark), (0x1CF2E, .other), (0x1CF30, .extendingMark), (0x1CF47, .other),
  (0x1CF50, .graphic), (0x1CFC4, .other)]

def runsBelow1F000 : List (Nat × Category) := [
  (0x1D000, .graphic), (0x1D0F6, .other), (0x1D100, .graphic), (0x1D127, .other),
  (0x1D129, .graphic), (0x1D165, .extendingMark), (0x1D16A, .graphic), (0x1D16D, .extendingMark),
  (0x1D173, .other), (0x1D17B, .extendingMark), (0x1D183, .graphic), (0x1D185, .extendingMark),
  (0x1D18C, .graphic), (0x1D1AA, .extendingMark), (0x1D1AE, .graphic), (0x1D1EB, .other),
  (0x1D200, .graphic), (0x1D242, .extendingMark), (0x1D245, .graphic), (0x1D246, .other),
  (0x1D2C0, .otherNumber), (0x1D2D4, .other), (0x1D2E0, .otherNumber), (0x1D2F4, .other),
  (0x1D300, .graphic), (0x1D357, .other), (0x1D360, .otherNumber), (0x1D379, .other),
  (0x1D400, .letter), (0x1D455, .other), (0x1D456, .letter), (0x1D49D, .other), (0x1D49E, .letter),
  (0x1D4A0, .other), (0x1D4A2, .letter), (0x1D4A3, .other), (0x1D4A5, .letter), (0x1D4A7, .other),
  (0x1D4A9, .letter), (0x1D4AD, .other), (0x1D4AE, .letter), (0x1D4BA, .other), (0x1D4BB, .letter),
  (0x1D4BC, .other), (0x1D4BD, .letter), (0x1D4C4, .other), (0x1D4C5, .letter), (0x1D506, .other),
  (0x1D507, .letter), (0x1D50B, .other), (0x1D50D, .letter), (0x1D515, .other), (0x1D516, .letter),
  (0x1D51D, .other), (0x1D51E, .letter), (0x1D53A, .other), (0x1D53B, .letter), (0x1D53F, .other),
  (0x1D540, .letter), (0x1D545, .other), (0x1D546, .letter), (0x1D547, .other), (0x1D54A, .letter),
  (0x1D551, .other), (0x1D552, .letter), (0x1D6A6, .other), (0x1D6A8, .letter), (0x1D6C1, .graphic),
  (0x1D6C2, .letter), (0x1D6DB, .graphic), (0x1D6DC, .letter), (0x1D6FB, .graphic),
  (0x1D6FC, .letter), (0x1D715, .graphic), (0x1D716, .letter), (0x1D735, .graphic),
  (0x1D736, .letter), (0x1D74F, .graphic), (0x1D750, .letter), (0x1D76F, .graphic),
  (0x1D770, .letter), (0x1D789, .graphic), (0x1D78A, .letter), (0x1D7A9, .graphic),
  (0x1D7AA, .letter), (0x1D7C3, .graphic), (0x1D7C4, .letter), (0x1D7CC, .other),
  (0x1D7CE, .decimalDigit), (0x1D800, .graphic), (0x1DA00, .extendingMark), (0x1DA37, .graphic),
  (0x1DA3B, .extendingMark), (0x1DA6D, .graphic), (0x1DA75, .extendingMark), (0x1DA76, .graphic),
  (0x1DA84, .extendingMark), (0x1DA85, .graphic), (0x1DA8C, .other), (0x1DA9B, .extendingMark),
  (0x1DAA0, .other), (0x1DAA1, .extendingMark), (0x1DAB0, .other), (0x1DF00, .letter),
  (0x1DF1F, .other), (0x1DF25, .letter), (0x1DF2B, .other), (0x1E000, .extendingMark),
  (0x1E007, .other), (0x1E008, .extendingMark), (0x1E019, .other), (0x1E01B, .extendingMark),
  (0x1E022, .other), (0x1E023, .extendingMark), (0x1E025, .other), (0x1E026, .extendingMark),
  (0x1E02B, .other), (0x1E030, .letter), (0x1E06E, .other), (0x1E08F, .extendingMark),
  (0x1E090, .other), (0x1E100, .letter), (0x1E12D, .other), (0x1E130, .extendingMark),
  (0x1E137, .letter), (0x1E13E, .other), (0x1E140, .decimalDigit), (0x1E14A, .other),
  (0x1E14E, .letter), (0x1E14F, .graphic), (0x1E150, .other), (0x1E290, .letter),
  (0x1E2AE, .extendingMark), (0x1E2AF, .other), (0x1E2C0, .letter), (0x1E2EC, .extendingMark),
  (0x1E2F0, .decimalDigit), (0x1E2FA, .other), (0x1E2FF, .graphic), (0x1E300, .other),
  (0x1E4D0, .letter), (0x1E4EC, .extendingMark), (0x1E4F0, .decimalDigit), (0x1E4FA, .other),
  (0x1E5D0, .letter), (0x1E5EE, .extendingMark), (0x1E5F0, .letter), (0x1E5F1, .decimalDigit),
  (0x1E5FB, .other), (0x1E5FF, .graphic), (0x1E600, .other), (0x1E6C0, .recent), (0x1E6DF, .other),
  (0x1E6E0, .recent), (0x1E6E3, .other), (0x1E6E4, .recent), (0x1E6E6, .other), (0x1E6E7, .recent),
  (0x1E6EE, .other), (0x1E6F0, .recent), (0x1E6F5, .other), (0x1E6FE, .recent), (0x1E700, .other),
  (0x1E7E0, .letter), (0x1E7E7, .other), (0x1E7E8, .letter), (0x1E7EC, .other), (0x1E7ED, .letter),
  (0x1E7EF, .other), (0x1E7F0, .letter), (0x1E7FF, .other), (0x1E800, .letter), (0x1E8C5, .other),
  (0x1E8C7, .otherNumber), (0x1E8D0, .extendingMark), (0x1E8D7, .other), (0x1E900, .letter),
  (0x1E944, .extendingMark), (0x1E94B, .letter), (0x1E94C, .other), (0x1E950, .decimalDigit),
  (0x1E95A, .other), (0x1E95E, .graphic), (0x1E960, .other), (0x1EC71, .otherNumber),
  (0x1ECAC, .graphic), (0x1ECAD, .otherNumber), (0x1ECB0, .graphic), (0x1ECB1, .otherNumber),
  (0x1ECB5, .other), (0x1ED01, .otherNumber), (0x1ED2E, .graphic), (0x1ED2F, .otherNumber),
  (0x1ED3E, .other), (0x1EE00, .letter), (0x1EE04, .other), (0x1EE05, .letter), (0x1EE20, .other),
  (0x1EE21, .letter), (0x1EE23, .other), (0x1EE24, .letter), (0x1EE25, .other), (0x1EE27, .letter),
  (0x1EE28, .other), (0x1EE29, .letter), (0x1EE33, .other), (0x1EE34, .letter), (0x1EE38, .other),
  (0x1EE39, .letter), (0x1EE3A, .other), (0x1EE3B, .letter), (0x1EE3C, .other), (0x1EE42, .letter),
  (0x1EE43, .other), (0x1EE47, .letter), (0x1EE48, .other), (0x1EE49, .letter), (0x1EE4A, .other),
  (0x1EE4B, .letter), (0x1EE4C, .other), (0x1EE4D, .letter), (0x1EE50, .other), (0x1EE51, .letter),
  (0x1EE53, .other), (0x1EE54, .letter), (0x1EE55, .other), (0x1EE57, .letter), (0x1EE58, .other),
  (0x1EE59, .letter), (0x1EE5A, .other), (0x1EE5B, .letter), (0x1EE5C, .other), (0x1EE5D, .letter),
  (0x1EE5E, .other), (0x1EE5F, .letter), (0x1EE60, .other), (0x1EE61, .letter), (0x1EE63, .other),
  (0x1EE64, .letter), (0x1EE65, .other), (0x1EE67, .letter), (0x1EE6B, .other), (0x1EE6C, .letter),
  (0x1EE73, .other), (0x1EE74, .letter), (0x1EE78, .other), (0x1EE79, .letter), (0x1EE7D, .other),
  (0x1EE7E, .letter), (0x1EE7F, .other), (0x1EE80, .letter), (0x1EE8A, .other), (0x1EE8B, .letter),
  (0x1EE9C, .other), (0x1EEA1, .letter), (0x1EEA4, .other), (0x1EEA5, .letter), (0x1EEAA, .other),
  (0x1EEAB, .letter), (0x1EEBC, .other), (0x1EEF0, .graphic), (0x1EEF2, .other)]

def runsAbove1F000 : List (Nat × Category) := [
  (0x1F000, .graphic), (0x1F02C, .other), (0x1F030, .graphic), (0x1F094, .other),
  (0x1F0A0, .graphic), (0x1F0AF, .other), (0x1F0B1, .graphic), (0x1F0C0, .other),
  (0x1F0C1, .graphic), (0x1F0D0, .other), (0x1F0D1, .graphic), (0x1F0F6, .other),
  (0x1F100, .otherNumber), (0x1F10D, .graphic), (0x1F130, .letterlikeSymbol), (0x1F14A, .graphic),
  (0x1F150, .letterlikeSymbol), (0x1F16A, .graphic), (0x1F170, .letterlikeSymbol),
  (0x1F18A, .graphic), (0x1F1AE, .other), (0x1F1E6, .graphic), (0x1F203, .other),
  (0x1F210, .graphic), (0x1F23C, .other), (0x1F240, .graphic), (0x1F249, .other),
  (0x1F250, .graphic), (0x1F252, .other), (0x1F260, .graphic), (0x1F266, .other),
  (0x1F300, .graphic), (0x1F6D8, .recent), (0x1F6D9, .other), (0x1F6DC, .graphic),
  (0x1F6ED, .other), (0x1F6F0, .graphic), (0x1F6FD, .other), (0x1F700, .graphic),
  (0x1F777, .recent), (0x1F77B, .graphic), (0x1F7DA, .other), (0x1F7E0, .graphic),
  (0x1F7EC, .other), (0x1F7F0, .graphic), (0x1F7F1, .other), (0x1F800, .graphic), (0x1F80C, .other),
  (0x1F810, .graphic), (0x1F848, .other), (0x1F850, .graphic), (0x1F85A, .other),
  (0x1F860, .graphic), (0x1F888, .other), (0x1F890, .graphic), (0x1F8AE, .other),
  (0x1F8B0, .graphic), (0x1F8BC, .other), (0x1F8C0, .graphic), (0x1F8C2, .other),
  (0x1F8D0, .recent), (0x1F8D9, .other), (0x1F900, .graphic), (0x1FA54, .recent), (0x1FA58, .other),
  (0x1FA60, .graphic), (0x1FA6E, .other), (0x1FA70, .graphic), (0x1FA7D, .other),
  (0x1FA80, .graphic), (0x1FA8A, .recent), (0x1FA8B, .other), (0x1FA8E, .recent),
  (0x1FA8F, .graphic), (0x1FAC7, .other), (0x1FAC8, .recent), (0x1FAC9, .other), (0x1FACD, .recent),
  (0x1FACE, .graphic), (0x1FADD, .other), (0x1FADF, .graphic), (0x1FAEA, .recent),
  (0x1FAEB, .other), (0x1FAEF, .recent), (0x1FAF0, .graphic), (0x1FAF9, .other),
  (0x1FB00, .graphic), (0x1FB93, .other), (0x1FB94, .graphic), (0x1FBF0, .decimalDigit),
  (0x1FBFA, .recent), (0x1FBFB, .other), (0x20000, .letter), (0x2A6E0, .other), (0x2A700, .letter),
  (0x2B73A, .recent), (0x2B740, .letter), (0x2B81E, .other), (0x2B820, .letter), (0x2CEA2, .recent),
  (0x2CEAE, .other), (0x2CEB0, .letter), (0x2EBE1, .other), (0x2EBF0, .letter), (0x2EE5E, .other),
  (0x2F800, .letter), (0x2FA1E, .other), (0x30000, .letter), (0x3134B, .other), (0x31350, .letter),
  (0x323B0, .recent), (0x3347A, .other), (0xE0100, .extendingMark), (0xE01F0, .other)]

/-- Every run, in ascending order. -/
def runs : List (Nat × Category) :=
  runsBelow0590 ++ runsBelow0C00 ++ runsBelow1100 ++
    runsBelow2000 ++ runsBelow3000 ++ runsBelowAC00 ++
    runsBelow10000 ++ runsBelow11000 ++ runsBelow12000 ++
    runsBelow1D000 ++ runsBelow1F000 ++ runsAbove1F000

end Formula.Category
