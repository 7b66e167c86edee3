/-!
# Replaced characters of domain names

The characters that stand for others in a domain name, as far as the difference decides how the
name is read.
-/

namespace Depository.Web

private def lowRuns : List (Nat × Nat × Nat) :=
  [(0xa0, 0xa0, 0x20), (0xaa, 0xaa, 0x61), (0xb2, 0xb3, 0x32), (0xb9, 0xb9, 0x31),
   (0xba, 0xba, 0x6f), (0x17f, 0x17f, 0x73), (0x2b0, 0x2b0, 0x68), (0x2b2, 0x2b2, 0x6a),
   (0x2b3, 0x2b3, 0x72), (0x2b7, 0x2b7, 0x77), (0x2b8, 0x2b8, 0x79), (0x2e1, 0x2e1, 0x6c),
   (0x2e2, 0x2e2, 0x73), (0x2e3, 0x2e3, 0x78), (0x340, 0x341, 0x300), (0x343, 0x343, 0x313),
   (0x345, 0x345, 0x3b9), (0x374, 0x374, 0x2b9), (0x37e, 0x37e, 0x3b), (0x387, 0x387, 0xb7),
   (0x1d2c, 0x1d2c, 0x61), (0x1d2e, 0x1d2e, 0x62), (0x1d30, 0x1d31, 0x64), (0x1d33, 0x1d3a, 0x67),
   (0x1d3c, 0x1d3c, 0x6f), (0x1d3e, 0x1d3e, 0x70), (0x1d3f, 0x1d3f, 0x72), (0x1d40, 0x1d41, 0x74),
   (0x1d42, 0x1d42, 0x77), (0x1d43, 0x1d43, 0x61), (0x1d47, 0x1d47, 0x62), (0x1d48, 0x1d49, 0x64),
   (0x1d4d, 0x1d4d, 0x67), (0x1d4f, 0x1d4f, 0x6b), (0x1d50, 0x1d50, 0x6d), (0x1d52, 0x1d52, 0x6f),
   (0x1d56, 0x1d56, 0x70), (0x1d57, 0x1d58, 0x74), (0x1d5b, 0x1d5b, 0x76), (0x1d62, 0x1d62, 0x69),
   (0x1d63, 0x1d63, 0x72), (0x1d64, 0x1d65, 0x75), (0x1d9c, 0x1d9c, 0x63), (0x1da0, 0x1da0, 0x66),
   (0x1dbb, 0x1dbb, 0x7a), (0x1fef, 0x1fef, 0x60), (0x2000, 0x2000, 0x20), (0x2001, 0x2001, 0x20),
   (0x2002, 0x2002, 0x20), (0x2003, 0x2003, 0x20), (0x2004, 0x2004, 0x20), (0x2005, 0x2005, 0x20),
   (0x2006, 0x2006, 0x20), (0x2007, 0x2007, 0x20), (0x2008, 0x2008, 0x20), (0x2009, 0x2009, 0x20),
   (0x200a, 0x200a, 0x20), (0x2011, 0x2011, 0x2010), (0x202f, 0x202f, 0x20),
   (0x205f, 0x205f, 0x20), (0x2070, 0x2070, 0x30), (0x2071, 0x2071, 0x69), (0x2074, 0x2079, 0x34),
   (0x207a, 0x207a, 0x2b), (0x207b, 0x207b, 0x2212), (0x207c, 0x207c, 0x3d),
   (0x207d, 0x207e, 0x28), (0x207f, 0x207f, 0x6e), (0x2080, 0x2089, 0x30), (0x208a, 0x208a, 0x2b),
   (0x208b, 0x208b, 0x2212), (0x208c, 0x208c, 0x3d), (0x208d, 0x208e, 0x28),
   (0x2090, 0x2090, 0x61), (0x2091, 0x2091, 0x65), (0x2092, 0x2092, 0x6f), (0x2093, 0x2093, 0x78),
   (0x2095, 0x2095, 0x68), (0x2096, 0x2099, 0x6b), (0x209a, 0x209a, 0x70), (0x209b, 0x209c, 0x73),
   (0x2102, 0x2102, 0x63), (0x210a, 0x210b, 0x67), (0x210c, 0x210c, 0x68), (0x210d, 0x210d, 0x68),
   (0x210e, 0x210e, 0x68), (0x2110, 0x2110, 0x69), (0x2111, 0x2111, 0x69), (0x2112, 0x2112, 0x6c),
   (0x2113, 0x2113, 0x6c), (0x2115, 0x2115, 0x6e), (0x2119, 0x211b, 0x70), (0x211c, 0x211c, 0x72),
   (0x211d, 0x211d, 0x72), (0x2124, 0x2124, 0x7a), (0x2128, 0x2128, 0x7a), (0x212a, 0x212a, 0x6b),
   (0x212c, 0x212d, 0x62), (0x212f, 0x212f, 0x65), (0x2130, 0x2131, 0x65), (0x2133, 0x2133, 0x6d),
   (0x2134, 0x2134, 0x6f), (0x2135, 0x2138, 0x5d0), (0x2139, 0x2139, 0x69),
   (0x2140, 0x2140, 0x2211), (0x2145, 0x2145, 0x64), (0x2146, 0x2147, 0x64),
   (0x2148, 0x2149, 0x69), (0x2160, 0x2160, 0x69), (0x2164, 0x2164, 0x76), (0x2169, 0x2169, 0x78),
   (0x216c, 0x216c, 0x6c), (0x216d, 0x216e, 0x63), (0x216f, 0x216f, 0x6d), (0x2170, 0x2170, 0x69),
   (0x2174, 0x2174, 0x76), (0x2179, 0x2179, 0x78), (0x217c, 0x217c, 0x6c), (0x217d, 0x217e, 0x63),
   (0x217f, 0x217f, 0x6d), (0x2329, 0x232a, 0x3008), (0x2460, 0x2468, 0x31),
   (0x24b6, 0x24cf, 0x61), (0x24d0, 0x24e9, 0x61), (0x24ea, 0x24ea, 0x30), (0x2c7c, 0x2c7c, 0x6a),
   (0x2c7d, 0x2c7d, 0x76), (0x3000, 0x3000, 0x20), (0x3002, 0x3002, 0x2e),
   (0x3036, 0x3036, 0x3012), (0xa7f1, 0xa7f1, 0x73), (0xa7f2, 0xa7f2, 0x63),
   (0xa7f3, 0xa7f3, 0x66), (0xa7f4, 0xa7f4, 0x71), (0xfb29, 0xfb29, 0x2b), (0xfb50, 0xfb50, 0x671),
   (0xfb51, 0xfb51, 0x671), (0xfb52, 0xfb52, 0x67b), (0xfb53, 0xfb53, 0x67b),
   (0xfb54, 0xfb54, 0x67b), (0xfb55, 0xfb55, 0x67b), (0xfb56, 0xfb56, 0x67e),
   (0xfb57, 0xfb57, 0x67e), (0xfb58, 0xfb58, 0x67e), (0xfb59, 0xfb59, 0x67e),
   (0xfb5a, 0xfb5a, 0x680), (0xfb5b, 0xfb5b, 0x680), (0xfb5c, 0xfb5c, 0x680),
   (0xfb5d, 0xfb5d, 0x680), (0xfb5e, 0xfb5e, 0x67a), (0xfb5f, 0xfb5f, 0x67a),
   (0xfb60, 0xfb60, 0x67a), (0xfb61, 0xfb61, 0x67a), (0xfb62, 0xfb62, 0x67f),
   (0xfb63, 0xfb63, 0x67f), (0xfb64, 0xfb64, 0x67f), (0xfb65, 0xfb65, 0x67f),
   (0xfb66, 0xfb66, 0x679), (0xfb67, 0xfb67, 0x679), (0xfb68, 0xfb68, 0x679),
   (0xfb69, 0xfb69, 0x679), (0xfb6a, 0xfb6a, 0x6a4), (0xfb6b, 0xfb6b, 0x6a4),
   (0xfb6c, 0xfb6c, 0x6a4), (0xfb6d, 0xfb6d, 0x6a4), (0xfb6e, 0xfb6e, 0x6a6),
   (0xfb6f, 0xfb6f, 0x6a6), (0xfb70, 0xfb70, 0x6a6), (0xfb71, 0xfb71, 0x6a6),
   (0xfb72, 0xfb72, 0x684), (0xfb73, 0xfb73, 0x684), (0xfb74, 0xfb74, 0x684),
   (0xfb75, 0xfb75, 0x684), (0xfb76, 0xfb76, 0x683), (0xfb77, 0xfb77, 0x683),
   (0xfb78, 0xfb78, 0x683), (0xfb79, 0xfb79, 0x683), (0xfb7a, 0xfb7a, 0x686),
   (0xfb7b, 0xfb7b, 0x686), (0xfb7c, 0xfb7c, 0x686), (0xfb7d, 0xfb7e, 0x686),
   (0xfb7f, 0xfb7f, 0x687), (0xfb80, 0xfb80, 0x687), (0xfb81, 0xfb81, 0x687),
   (0xfb82, 0xfb82, 0x68d), (0xfb83, 0xfb83, 0x68d), (0xfb84, 0xfb84, 0x68c),
   (0xfb85, 0xfb85, 0x68c), (0xfb86, 0xfb86, 0x68e), (0xfb87, 0xfb87, 0x68e),
   (0xfb88, 0xfb88, 0x688), (0xfb89, 0xfb89, 0x688), (0xfb8a, 0xfb8a, 0x698),
   (0xfb8b, 0xfb8b, 0x698), (0xfb8c, 0xfb8c, 0x691), (0xfb8d, 0xfb8d, 0x691),
   (0xfb8e, 0xfb8e, 0x6a9), (0xfb8f, 0xfb8f, 0x6a9), (0xfb90, 0xfb90, 0x6a9),
   (0xfb91, 0xfb91, 0x6a9), (0xfb92, 0xfb92, 0x6af), (0xfb93, 0xfb93, 0x6af),
   (0xfb94, 0xfb94, 0x6af), (0xfb95, 0xfb95, 0x6af), (0xfb96, 0xfb96, 0x6b3),
   (0xfb97, 0xfb97, 0x6b3), (0xfb98, 0xfb98, 0x6b3), (0xfb99, 0xfb99, 0x6b3),
   (0xfb9a, 0xfb9a, 0x6b1), (0xfb9b, 0xfb9b, 0x6b1), (0xfb9c, 0xfb9c, 0x6b1),
   (0xfb9d, 0xfb9d, 0x6b1), (0xfb9e, 0xfb9e, 0x6ba), (0xfb9f, 0xfba0, 0x6ba),
   (0xfba1, 0xfba1, 0x6bb), (0xfba2, 0xfba2, 0x6bb), (0xfba3, 0xfba3, 0x6bb),
   (0xfba4, 0xfba4, 0x6c0), (0xfba5, 0xfba6, 0x6c0), (0xfba7, 0xfba7, 0x6c1),
   (0xfba8, 0xfba8, 0x6c1), (0xfba9, 0xfba9, 0x6c1), (0xfbaa, 0xfbaa, 0x6be),
   (0xfbab, 0xfbab, 0x6be), (0xfbac, 0xfbac, 0x6be), (0xfbad, 0xfbad, 0x6be),
   (0xfbae, 0xfbae, 0x6d2), (0xfbaf, 0xfbb0, 0x6d2), (0xfbb1, 0xfbb1, 0x6d3),
   (0xfbd3, 0xfbd3, 0x6ad), (0xfbd4, 0xfbd4, 0x6ad), (0xfbd5, 0xfbd5, 0x6ad),
   (0xfbd6, 0xfbd6, 0x6ad), (0xfbd7, 0xfbd7, 0x6c7), (0xfbd8, 0xfbd8, 0x6c7),
   (0xfbd9, 0xfbd9, 0x6c6), (0xfbda, 0xfbda, 0x6c6), (0xfbdb, 0xfbdb, 0x6c8),
   (0xfbdc, 0xfbdc, 0x6c8), (0xfbde, 0xfbde, 0x6cb), (0xfbdf, 0xfbdf, 0x6cb),
   (0xfbe0, 0xfbe0, 0x6c5), (0xfbe1, 0xfbe1, 0x6c5), (0xfbe2, 0xfbe2, 0x6c9),
   (0xfbe3, 0xfbe3, 0x6c9), (0xfbe4, 0xfbe4, 0x6d0), (0xfbe5, 0xfbe5, 0x6d0),
   (0xfbe6, 0xfbe6, 0x6d0), (0xfbe7, 0xfbe7, 0x6d0), (0xfbe8, 0xfbe8, 0x649),
   (0xfbe9, 0xfbe9, 0x649), (0xfbfc, 0xfbfc, 0x6cc), (0xfbfd, 0xfbfd, 0x6cc),
   (0xfbfe, 0xfbfe, 0x6cc), (0xfbff, 0xfbff, 0x6cc), (0xfe10, 0xfe10, 0x2c),
   (0xfe11, 0xfe11, 0x3001), (0xfe13, 0xfe14, 0x3a), (0xfe15, 0xfe15, 0x21),
   (0xfe16, 0xfe16, 0x3f), (0xfe17, 0xfe18, 0x3016), (0xfe31, 0xfe31, 0x2014),
   (0xfe32, 0xfe32, 0x2013), (0xfe33, 0xfe33, 0x5f), (0xfe34, 0xfe34, 0x5f),
   (0xfe35, 0xfe36, 0x28), (0xfe37, 0xfe37, 0x7b), (0xfe38, 0xfe38, 0x7d),
   (0xfe39, 0xfe3a, 0x3014), (0xfe3b, 0xfe3c, 0x3010), (0xfe3d, 0xfe3e, 0x300a),
   (0xfe3f, 0xfe40, 0x3008), (0xfe41, 0xfe44, 0x300c), (0xfe47, 0xfe47, 0x5b),
   (0xfe48, 0xfe48, 0x5d), (0xfe4d, 0xfe4d, 0x5f), (0xfe4e, 0xfe4e, 0x5f), (0xfe4f, 0xfe4f, 0x5f),
   (0xfe50, 0xfe50, 0x2c), (0xfe51, 0xfe51, 0x3001), (0xfe54, 0xfe54, 0x3b),
   (0xfe55, 0xfe55, 0x3a), (0xfe56, 0xfe56, 0x3f), (0xfe57, 0xfe57, 0x21),
   (0xfe58, 0xfe58, 0x2014), (0xfe59, 0xfe5a, 0x28), (0xfe5b, 0xfe5b, 0x7b),
   (0xfe5c, 0xfe5c, 0x7d), (0xfe5d, 0xfe5e, 0x3014), (0xfe5f, 0xfe5f, 0x23),
   (0xfe60, 0xfe60, 0x26), (0xfe61, 0xfe62, 0x2a), (0xfe63, 0xfe63, 0x2d), (0xfe64, 0xfe64, 0x3c)]

private def highRuns : List (Nat × Nat × Nat) :=
  [(0xfe65, 0xfe65, 0x3e), (0xfe66, 0xfe66, 0x3d), (0xfe68, 0xfe68, 0x5c), (0xfe69, 0xfe6a, 0x24),
   (0xfe6b, 0xfe6b, 0x40), (0xfe81, 0xfe81, 0x622), (0xfe82, 0xfe83, 0x622),
   (0xfe84, 0xfe85, 0x623), (0xfe86, 0xfe87, 0x624), (0xfe88, 0xfe89, 0x625),
   (0xfe8a, 0xfe8a, 0x626), (0xfe8b, 0xfe8b, 0x626), (0xfe8c, 0xfe8d, 0x626),
   (0xfe8e, 0xfe8f, 0x627), (0xfe90, 0xfe90, 0x628), (0xfe91, 0xfe91, 0x628),
   (0xfe92, 0xfe93, 0x628), (0xfe94, 0xfe95, 0x629), (0xfe96, 0xfe96, 0x62a),
   (0xfe97, 0xfe97, 0x62a), (0xfe98, 0xfe99, 0x62a), (0xfe9a, 0xfe9a, 0x62b),
   (0xfe9b, 0xfe9b, 0x62b), (0xfe9c, 0xfe9d, 0x62b), (0xfe9e, 0xfe9e, 0x62c),
   (0xfe9f, 0xfe9f, 0x62c), (0xfea0, 0xfea1, 0x62c), (0xfea2, 0xfea2, 0x62d),
   (0xfea3, 0xfea3, 0x62d), (0xfea4, 0xfea5, 0x62d), (0xfea6, 0xfea6, 0x62e),
   (0xfea7, 0xfea7, 0x62e), (0xfea8, 0xfea9, 0x62e), (0xfeaa, 0xfeab, 0x62f),
   (0xfeac, 0xfead, 0x630), (0xfeae, 0xfeaf, 0x631), (0xfeb0, 0xfeb1, 0x632),
   (0xfeb2, 0xfeb2, 0x633), (0xfeb3, 0xfeb3, 0x633), (0xfeb4, 0xfeb5, 0x633),
   (0xfeb6, 0xfeb6, 0x634), (0xfeb7, 0xfeb7, 0x634), (0xfeb8, 0xfeb9, 0x634),
   (0xfeba, 0xfeba, 0x635), (0xfebb, 0xfebb, 0x635), (0xfebc, 0xfebd, 0x635),
   (0xfebe, 0xfebe, 0x636), (0xfebf, 0xfebf, 0x636), (0xfec0, 0xfec1, 0x636),
   (0xfec2, 0xfec2, 0x637), (0xfec3, 0xfec3, 0x637), (0xfec4, 0xfec5, 0x637),
   (0xfec6, 0xfec6, 0x638), (0xfec7, 0xfec7, 0x638), (0xfec8, 0xfec9, 0x638),
   (0xfeca, 0xfeca, 0x639), (0xfecb, 0xfecb, 0x639), (0xfecc, 0xfecd, 0x639),
   (0xfece, 0xfece, 0x63a), (0xfecf, 0xfecf, 0x63a), (0xfed0, 0xfed0, 0x63a),
   (0xfed1, 0xfed1, 0x641), (0xfed2, 0xfed2, 0x641), (0xfed3, 0xfed3, 0x641),
   (0xfed4, 0xfed5, 0x641), (0xfed6, 0xfed6, 0x642), (0xfed7, 0xfed7, 0x642),
   (0xfed8, 0xfed9, 0x642), (0xfeda, 0xfeda, 0x643), (0xfedb, 0xfedb, 0x643),
   (0xfedc, 0xfedd, 0x643), (0xfede, 0xfede, 0x644), (0xfedf, 0xfedf, 0x644),
   (0xfee0, 0xfee1, 0x644), (0xfee2, 0xfee2, 0x645), (0xfee3, 0xfee3, 0x645),
   (0xfee4, 0xfee5, 0x645), (0xfee6, 0xfee6, 0x646), (0xfee7, 0xfee7, 0x646),
   (0xfee8, 0xfee9, 0x646), (0xfeea, 0xfeea, 0x647), (0xfeeb, 0xfeeb, 0x647),
   (0xfeec, 0xfeed, 0x647), (0xfeee, 0xfeef, 0x648), (0xfef0, 0xfef1, 0x649),
   (0xfef2, 0xfef2, 0x64a), (0xfef3, 0xfef3, 0x64a), (0xfef4, 0xfef4, 0x64a),
   (0xff01, 0xff20, 0x21), (0xff21, 0xff3a, 0x61), (0xff3b, 0xff5e, 0x5b),
   (0xff5f, 0xff60, 0x2985), (0xff61, 0xff61, 0x2e), (0xff62, 0xff63, 0x300c),
   (0xff64, 0xff64, 0x3001), (0xff65, 0xff65, 0x30fb), (0xff9e, 0xff9f, 0x3099),
   (0xffe0, 0xffe1, 0xa2), (0xffe2, 0xffe2, 0xac), (0xffe4, 0xffe4, 0xa6), (0xffe5, 0xffe5, 0xa5),
   (0xffe6, 0xffe6, 0x20a9), (0xffe8, 0xffe8, 0x2502), (0xffe9, 0xffec, 0x2190),
   (0xffed, 0xffed, 0x25a0), (0xffee, 0xffee, 0x25cb), (0x107a5, 0x107a5, 0x71),
   (0x10c80, 0x10cb2, 0x10cc0), (0x1ccd6, 0x1ccef, 0x61), (0x1ccf0, 0x1ccf9, 0x30),
   (0x1d400, 0x1d419, 0x61), (0x1d41a, 0x1d433, 0x61), (0x1d434, 0x1d44d, 0x61),
   (0x1d44e, 0x1d454, 0x61), (0x1d456, 0x1d467, 0x69), (0x1d468, 0x1d481, 0x61),
   (0x1d482, 0x1d49b, 0x61), (0x1d49c, 0x1d49c, 0x61), (0x1d49e, 0x1d49f, 0x63),
   (0x1d4a2, 0x1d4a2, 0x67), (0x1d4a5, 0x1d4a6, 0x6a), (0x1d4a9, 0x1d4ac, 0x6e),
   (0x1d4ae, 0x1d4b5, 0x73), (0x1d4b6, 0x1d4b9, 0x61), (0x1d4bb, 0x1d4bb, 0x66),
   (0x1d4bd, 0x1d4c3, 0x68), (0x1d4c5, 0x1d4cf, 0x70), (0x1d4d0, 0x1d4e9, 0x61),
   (0x1d4ea, 0x1d503, 0x61), (0x1d504, 0x1d505, 0x61), (0x1d507, 0x1d50a, 0x64),
   (0x1d50d, 0x1d514, 0x6a), (0x1d516, 0x1d51c, 0x73), (0x1d51e, 0x1d537, 0x61),
   (0x1d538, 0x1d539, 0x61), (0x1d53b, 0x1d53e, 0x64), (0x1d540, 0x1d544, 0x69),
   (0x1d546, 0x1d546, 0x6f), (0x1d54a, 0x1d550, 0x73), (0x1d552, 0x1d56b, 0x61),
   (0x1d56c, 0x1d585, 0x61), (0x1d586, 0x1d59f, 0x61), (0x1d5a0, 0x1d5b9, 0x61),
   (0x1d5ba, 0x1d5d3, 0x61), (0x1d5d4, 0x1d5ed, 0x61), (0x1d5ee, 0x1d607, 0x61),
   (0x1d608, 0x1d621, 0x61), (0x1d622, 0x1d63b, 0x61), (0x1d63c, 0x1d655, 0x61),
   (0x1d656, 0x1d66f, 0x61), (0x1d670, 0x1d689, 0x61), (0x1d68a, 0x1d6a3, 0x61),
   (0x1d6c1, 0x1d6c1, 0x2207), (0x1d6db, 0x1d6db, 0x2202), (0x1d6fb, 0x1d6fb, 0x2207),
   (0x1d715, 0x1d715, 0x2202), (0x1d735, 0x1d735, 0x2207), (0x1d74f, 0x1d74f, 0x2202),
   (0x1d76f, 0x1d76f, 0x2207), (0x1d789, 0x1d789, 0x2202), (0x1d7a9, 0x1d7a9, 0x2207),
   (0x1d7c3, 0x1d7c3, 0x2202), (0x1d7ce, 0x1d7d7, 0x30), (0x1d7d8, 0x1d7e1, 0x30),
   (0x1d7e2, 0x1d7eb, 0x30), (0x1d7ec, 0x1d7f5, 0x30), (0x1d7f6, 0x1d7ff, 0x30),
   (0x1e900, 0x1e921, 0x1e922), (0x1ee00, 0x1ee01, 0x627), (0x1ee02, 0x1ee02, 0x62c),
   (0x1ee03, 0x1ee03, 0x62f), (0x1ee05, 0x1ee05, 0x648), (0x1ee06, 0x1ee06, 0x632),
   (0x1ee07, 0x1ee07, 0x62d), (0x1ee08, 0x1ee08, 0x637), (0x1ee09, 0x1ee09, 0x64a),
   (0x1ee0a, 0x1ee0d, 0x643), (0x1ee0e, 0x1ee0e, 0x633), (0x1ee0f, 0x1ee0f, 0x639),
   (0x1ee10, 0x1ee10, 0x641), (0x1ee11, 0x1ee11, 0x635), (0x1ee12, 0x1ee12, 0x642),
   (0x1ee13, 0x1ee13, 0x631), (0x1ee14, 0x1ee14, 0x634), (0x1ee15, 0x1ee16, 0x62a),
   (0x1ee17, 0x1ee17, 0x62e), (0x1ee18, 0x1ee18, 0x630), (0x1ee19, 0x1ee19, 0x636),
   (0x1ee1a, 0x1ee1a, 0x638), (0x1ee1b, 0x1ee1b, 0x63a), (0x1ee1c, 0x1ee1c, 0x66e),
   (0x1ee1d, 0x1ee1d, 0x6ba), (0x1ee1e, 0x1ee1e, 0x6a1), (0x1ee1f, 0x1ee1f, 0x66f),
   (0x1ee21, 0x1ee21, 0x628), (0x1ee22, 0x1ee22, 0x62c), (0x1ee24, 0x1ee24, 0x647),
   (0x1ee27, 0x1ee27, 0x62d), (0x1ee29, 0x1ee29, 0x64a), (0x1ee2a, 0x1ee2d, 0x643),
   (0x1ee2e, 0x1ee2e, 0x633), (0x1ee2f, 0x1ee2f, 0x639), (0x1ee30, 0x1ee30, 0x641),
   (0x1ee31, 0x1ee31, 0x635), (0x1ee32, 0x1ee32, 0x642), (0x1ee34, 0x1ee34, 0x634),
   (0x1ee35, 0x1ee36, 0x62a), (0x1ee37, 0x1ee37, 0x62e), (0x1ee39, 0x1ee39, 0x636),
   (0x1ee3b, 0x1ee3b, 0x63a), (0x1ee42, 0x1ee42, 0x62c), (0x1ee47, 0x1ee47, 0x62d),
   (0x1ee49, 0x1ee49, 0x64a), (0x1ee4b, 0x1ee4b, 0x644), (0x1ee4d, 0x1ee4d, 0x646),
   (0x1ee4e, 0x1ee4e, 0x633), (0x1ee4f, 0x1ee4f, 0x639), (0x1ee51, 0x1ee51, 0x635),
   (0x1ee52, 0x1ee52, 0x642), (0x1ee54, 0x1ee54, 0x634), (0x1ee57, 0x1ee57, 0x62e),
   (0x1ee59, 0x1ee59, 0x636), (0x1ee5b, 0x1ee5b, 0x63a), (0x1ee5d, 0x1ee5d, 0x6ba),
   (0x1ee5f, 0x1ee5f, 0x66f), (0x1ee61, 0x1ee61, 0x628), (0x1ee62, 0x1ee62, 0x62c),
   (0x1ee64, 0x1ee64, 0x647), (0x1ee67, 0x1ee67, 0x62d), (0x1ee68, 0x1ee68, 0x637),
   (0x1ee69, 0x1ee69, 0x64a), (0x1ee6a, 0x1ee6a, 0x643), (0x1ee6c, 0x1ee6d, 0x645),
   (0x1ee6e, 0x1ee6e, 0x633), (0x1ee6f, 0x1ee6f, 0x639), (0x1ee70, 0x1ee70, 0x641),
   (0x1ee71, 0x1ee71, 0x635), (0x1ee72, 0x1ee72, 0x642), (0x1ee74, 0x1ee74, 0x634),
   (0x1ee75, 0x1ee76, 0x62a), (0x1ee77, 0x1ee77, 0x62e), (0x1ee79, 0x1ee79, 0x636),
   (0x1ee7a, 0x1ee7a, 0x638), (0x1ee7b, 0x1ee7b, 0x63a), (0x1ee7c, 0x1ee7c, 0x66e),
   (0x1ee7e, 0x1ee7e, 0x6a1), (0x1ee80, 0x1ee81, 0x627), (0x1ee82, 0x1ee82, 0x62c),
   (0x1ee83, 0x1ee83, 0x62f), (0x1ee84, 0x1ee85, 0x647), (0x1ee86, 0x1ee86, 0x632),
   (0x1ee87, 0x1ee87, 0x62d), (0x1ee88, 0x1ee88, 0x637), (0x1ee89, 0x1ee89, 0x64a),
   (0x1ee8b, 0x1ee8d, 0x644), (0x1ee8e, 0x1ee8e, 0x633), (0x1ee8f, 0x1ee8f, 0x639),
   (0x1ee90, 0x1ee90, 0x641), (0x1ee91, 0x1ee91, 0x635), (0x1ee92, 0x1ee92, 0x642),
   (0x1ee93, 0x1ee93, 0x631), (0x1ee94, 0x1ee94, 0x634), (0x1ee95, 0x1ee96, 0x62a),
   (0x1ee97, 0x1ee97, 0x62e), (0x1ee98, 0x1ee98, 0x630), (0x1ee99, 0x1ee99, 0x636),
   (0x1ee9a, 0x1ee9a, 0x638), (0x1ee9b, 0x1ee9b, 0x63a), (0x1eea1, 0x1eea1, 0x628),
   (0x1eea2, 0x1eea2, 0x62c), (0x1eea3, 0x1eea3, 0x62f), (0x1eea5, 0x1eea5, 0x648),
   (0x1eea6, 0x1eea6, 0x632), (0x1eea7, 0x1eea7, 0x62d), (0x1eea8, 0x1eea8, 0x637),
   (0x1eea9, 0x1eea9, 0x64a), (0x1eeab, 0x1eead, 0x644), (0x1eeae, 0x1eeae, 0x633),
   (0x1eeaf, 0x1eeaf, 0x639), (0x1eeb0, 0x1eeb0, 0x641), (0x1eeb1, 0x1eeb1, 0x635),
   (0x1eeb2, 0x1eeb2, 0x642), (0x1eeb3, 0x1eeb3, 0x631), (0x1eeb4, 0x1eeb4, 0x634),
   (0x1eeb5, 0x1eeb6, 0x62a), (0x1eeb7, 0x1eeb7, 0x62e), (0x1eeb8, 0x1eeb8, 0x630),
   (0x1eeb9, 0x1eeb9, 0x636), (0x1eeba, 0x1eeba, 0x638), (0x1eebb, 0x1eebb, 0x63a),
   (0x1f12b, 0x1f12b, 0x63), (0x1f12c, 0x1f12c, 0x72), (0x1f130, 0x1f149, 0x61),
   (0x1fbf0, 0x1fbf9, 0x30)]

/-- Characters from the first to the second that stand for consecutive characters, of which the
third is the first. -/
def replacedRuns : List (Nat × Nat × Nat) := lowRuns ++ highRuns

private def lowTexts : List (Nat × String) :=
  [(0xbc, "1\u20444"), (0xbd, "1\u20442"), (0xbe, "3\u20444"), (0x130, "i\u0307"), (0x132, "ij"),
   (0x133, "ij"), (0x13f, "l\u00b7"), (0x140, "l\u00b7"), (0x149, "\u02bcn"), (0x1c4, "d\u017e"),
   (0x1c5, "d\u017e"), (0x1c6, "d\u017e"), (0x1c7, "lj"), (0x1c8, "lj"), (0x1c9, "lj"),
   (0x1ca, "nj"), (0x1cb, "nj"), (0x1cc, "nj"), (0x1f1, "dz"), (0x1f2, "dz"), (0x1f3, "dz"),
   (0x344, "\u0308\u0301"), (0x675, "\u0627\u0674"), (0x676, "\u0648\u0674"),
   (0x677, "\u06c7\u0674"), (0x678, "\u064a\u0674"), (0x958, "\u0915\u093c"),
   (0x959, "\u0916\u093c"), (0x95a, "\u0917\u093c"), (0x95b, "\u091c\u093c"),
   (0x95c, "\u0921\u093c"), (0x95d, "\u0922\u093c"), (0x95e, "\u092b\u093c"),
   (0x95f, "\u092f\u093c"), (0x9dc, "\u09a1\u09bc"), (0x9dd, "\u09a2\u09bc"),
   (0x9df, "\u09af\u09bc"), (0xa33, "\u0a32\u0a3c"), (0xa36, "\u0a38\u0a3c"),
   (0xa59, "\u0a16\u0a3c"), (0xa5a, "\u0a17\u0a3c"), (0xa5b, "\u0a1c\u0a3c"),
   (0xa5e, "\u0a2b\u0a3c"), (0xb5c, "\u0b21\u0b3c"), (0xb5d, "\u0b22\u0b3c"),
   (0xe33, "\u0e4d\u0e32"), (0xeb3, "\u0ecd\u0eb2"), (0xf43, "\u0f42\u0fb7"),
   (0xf4d, "\u0f4c\u0fb7"), (0xf52, "\u0f51\u0fb7"), (0xf57, "\u0f56\u0fb7"),
   (0xf5c, "\u0f5b\u0fb7"), (0xf69, "\u0f40\u0fb5"), (0xf73, "\u0f71\u0f72"),
   (0xf75, "\u0f71\u0f74"), (0xf76, "\u0fb2\u0f80"), (0xf77, "\u0fb2\u0f71\u0f80"),
   (0xf78, "\u0fb3\u0f80"), (0xf79, "\u0fb3\u0f71\u0f80"), (0xf81, "\u0f71\u0f80"),
   (0xf93, "\u0f92\u0fb7"), (0xf9d, "\u0f9c\u0fb7"), (0xfa2, "\u0fa1\u0fb7"),
   (0xfa7, "\u0fa6\u0fb7"), (0xfac, "\u0fab\u0fb7"), (0xfb9, "\u0f90\u0fb5"), (0x1e9a, "a\u02be"),
   (0x2033, "\u2032\u2032"), (0x2034, "\u2032\u2032\u2032"), (0x2036, "\u2035\u2035"),
   (0x2037, "\u2035\u2035\u2035"), (0x203c, "!!"), (0x2057, "\u2032\u2032\u2032\u2032"),
   (0x20a8, "rs"), (0x2103, "\u00b0c"), (0x2109, "\u00b0f"), (0x2116, "no"), (0x2120, "sm"),
   (0x2121, "tel"), (0x2122, "tm"), (0x213b, "fax"), (0x2150, "1\u20447"), (0x2151, "1\u20449"),
   (0x2152, "1\u204410"), (0x2153, "1\u20443"), (0x2154, "2\u20443"), (0x2155, "1\u20445"),
   (0x2156, "2\u20445"), (0x2157, "3\u20445"), (0x2158, "4\u20445"), (0x2159, "1\u20446"),
   (0x215a, "5\u20446"), (0x215b, "1\u20448"), (0x215c, "3\u20448"), (0x215d, "5\u20448"),
   (0x215e, "7\u20448"), (0x215f, "1\u2044"), (0x2161, "ii"), (0x2162, "iii"), (0x2163, "iv"),
   (0x2165, "vi"), (0x2166, "vii"), (0x2167, "viii"), (0x2168, "ix"), (0x216a, "xi"),
   (0x216b, "xii"), (0x2171, "ii"), (0x2172, "iii"), (0x2173, "iv"), (0x2175, "vi"),
   (0x2176, "vii"), (0x2177, "viii"), (0x2178, "ix"), (0x217a, "xi"), (0x217b, "xii"),
   (0x2189, "0\u20443"), (0x222c, "\u222b\u222b"), (0x222d, "\u222b\u222b\u222b"),
   (0x222f, "\u222e\u222e"), (0x2230, "\u222e\u222e\u222e"), (0x2469, "10"), (0x246a, "11"),
   (0x246b, "12"), (0x246c, "13"), (0x246d, "14"), (0x246e, "15"), (0x246f, "16"), (0x2470, "17"),
   (0x2471, "18"), (0x2472, "19"), (0x2473, "20"), (0x2474, "(1)"), (0x2475, "(2)"),
   (0x2476, "(3)"), (0x2477, "(4)"), (0x2478, "(5)"), (0x2479, "(6)"), (0x247a, "(7)"),
   (0x247b, "(8)"), (0x247c, "(9)"), (0x247d, "(10)"), (0x247e, "(11)"), (0x247f, "(12)"),
   (0x2480, "(13)"), (0x2481, "(14)"), (0x2482, "(15)"), (0x2483, "(16)"), (0x2484, "(17)"),
   (0x2485, "(18)"), (0x2486, "(19)"), (0x2487, "(20)"), (0x249c, "(a)"), (0x249d, "(b)"),
   (0x249e, "(c)"), (0x249f, "(d)"), (0x24a0, "(e)"), (0x24a1, "(f)"), (0x24a2, "(g)"),
   (0x24a3, "(h)"), (0x24a4, "(i)"), (0x24a5, "(j)"), (0x24a6, "(k)"), (0x24a7, "(l)"),
   (0x24a8, "(m)"), (0x24a9, "(n)"), (0x24aa, "(o)"), (0x24ab, "(p)"), (0x24ac, "(q)"),
   (0x24ad, "(r)"), (0x24ae, "(s)"), (0x24af, "(t)"), (0x24b0, "(u)"), (0x24b1, "(v)"),
   (0x24b2, "(w)"), (0x24b3, "(x)"), (0x24b4, "(y)"), (0x24b5, "(z)"),
   (0x2a0c, "\u222b\u222b\u222b\u222b"), (0x2a75, "=="), (0x2a76, "==="), (0x2adc, "\u2add\u0338"),
   (0x3200, "(\u1100)"), (0x3201, "(\u1102)"), (0x3202, "(\u1103)"), (0x3203, "(\u1105)"),
   (0x3204, "(\u1106)"), (0x3205, "(\u1107)"), (0x3206, "(\u1109)"), (0x3207, "(\u110b)"),
   (0x3208, "(\u110c)"), (0x3209, "(\u110e)"), (0x320a, "(\u110f)"), (0x320b, "(\u1110)"),
   (0x320c, "(\u1111)"), (0x320d, "(\u1112)"), (0x320e, "(\uac00)"), (0x320f, "(\ub098)"),
   (0x3210, "(\ub2e4)"), (0x3211, "(\ub77c)"), (0x3212, "(\ub9c8)"), (0x3213, "(\ubc14)"),
   (0x3214, "(\uc0ac)"), (0x3215, "(\uc544)"), (0x3216, "(\uc790)"), (0x3217, "(\ucc28)"),
   (0x3218, "(\uce74)"), (0x3219, "(\ud0c0)"), (0x321a, "(\ud30c)"), (0x321b, "(\ud558)"),
   (0x321c, "(\uc8fc)"), (0x321d, "(\uc624\uc804)"), (0x321e, "(\uc624\ud6c4)"),
   (0x3220, "(\u4e00)"), (0x3221, "(\u4e8c)"), (0x3222, "(\u4e09)"), (0x3223, "(\u56db)"),
   (0x3224, "(\u4e94)"), (0x3225, "(\u516d)"), (0x3226, "(\u4e03)"), (0x3227, "(\u516b)"),
   (0x3228, "(\u4e5d)"), (0x3229, "(\u5341)"), (0x322a, "(\u6708)"), (0x322b, "(\u706b)"),
   (0x322c, "(\u6c34)"), (0x322d, "(\u6728)"), (0x322e, "(\u91d1)"), (0x322f, "(\u571f)"),
   (0x3230, "(\u65e5)"), (0x3231, "(\u682a)"), (0x3232, "(\u6709)"), (0x3233, "(\u793e)"),
   (0x3234, "(\u540d)"), (0x3235, "(\u7279)"), (0x3236, "(\u8ca1)"), (0x3237, "(\u795d)"),
   (0x3238, "(\u52b4)"), (0x3239, "(\u4ee3)"), (0x323a, "(\u547c)"), (0x323b, "(\u5b66)"),
   (0x323c, "(\u76e3)"), (0x323d, "(\u4f01)"), (0x323e, "(\u8cc7)"), (0x323f, "(\u5354)"),
   (0x3240, "(\u796d)"), (0x3241, "(\u4f11)"), (0x3242, "(\u81ea)"), (0x3243, "(\u81f3)"),
   (0x3250, "pte"), (0x3251, "21"), (0x3252, "22"), (0x3253, "23"), (0x3254, "24"), (0x3255, "25"),
   (0x3256, "26"), (0x3257, "27"), (0x3258, "28")]

private def squareTexts : List (Nat × String) :=
  [(0x3259, "29"), (0x325a, "30"), (0x325b, "31"), (0x325c, "32"), (0x325d, "33"), (0x325e, "34"),
   (0x325f, "35"), (0x32b1, "36"), (0x32b2, "37"), (0x32b3, "38"), (0x32b4, "39"), (0x32b5, "40"),
   (0x32b6, "41"), (0x32b7, "42"), (0x32b8, "43"), (0x32b9, "44"), (0x32ba, "45"), (0x32bb, "46"),
   (0x32bc, "47"), (0x32bd, "48"), (0x32be, "49"), (0x32bf, "50"), (0x32c0, "1\u6708"),
   (0x32c1, "2\u6708"), (0x32c2, "3\u6708"), (0x32c3, "4\u6708"), (0x32c4, "5\u6708"),
   (0x32c5, "6\u6708"), (0x32c6, "7\u6708"), (0x32c7, "8\u6708"), (0x32c8, "9\u6708"),
   (0x32c9, "10\u6708"), (0x32ca, "11\u6708"), (0x32cb, "12\u6708"), (0x32cc, "hg"),
   (0x32cd, "erg"), (0x32ce, "ev"), (0x32cf, "ltd"), (0x3358, "0\u70b9"), (0x3359, "1\u70b9"),
   (0x335a, "2\u70b9"), (0x335b, "3\u70b9"), (0x335c, "4\u70b9"), (0x335d, "5\u70b9"),
   (0x335e, "6\u70b9"), (0x335f, "7\u70b9"), (0x3360, "8\u70b9"), (0x3361, "9\u70b9"),
   (0x3362, "10\u70b9"), (0x3363, "11\u70b9"), (0x3364, "12\u70b9"), (0x3365, "13\u70b9"),
   (0x3366, "14\u70b9"), (0x3367, "15\u70b9"), (0x3368, "16\u70b9"), (0x3369, "17\u70b9"),
   (0x336a, "18\u70b9"), (0x336b, "19\u70b9"), (0x336c, "20\u70b9"), (0x336d, "21\u70b9"),
   (0x336e, "22\u70b9"), (0x336f, "23\u70b9"), (0x3370, "24\u70b9"), (0x3371, "hpa"),
   (0x3372, "da"), (0x3373, "au"), (0x3374, "bar"), (0x3375, "ov"), (0x3376, "pc"), (0x3377, "dm"),
   (0x3378, "dm2"), (0x3379, "dm3"), (0x337a, "iu"), (0x3380, "pa"), (0x3381, "na"),
   (0x3382, "\u03bca"), (0x3383, "ma"), (0x3384, "ka"), (0x3385, "kb"), (0x3386, "mb"),
   (0x3387, "gb"), (0x3388, "cal"), (0x3389, "kcal"), (0x338a, "pf"), (0x338b, "nf"),
   (0x338c, "\u03bcf"), (0x338d, "\u03bcg"), (0x338e, "mg"), (0x338f, "kg"), (0x3390, "hz"),
   (0x3391, "khz"), (0x3392, "mhz"), (0x3393, "ghz"), (0x3394, "thz"), (0x3395, "\u03bcl"),
   (0x3396, "ml"), (0x3397, "dl"), (0x3398, "kl"), (0x3399, "fm"), (0x339a, "nm"),
   (0x339b, "\u03bcm"), (0x339c, "mm"), (0x339d, "cm"), (0x339e, "km"), (0x339f, "mm2"),
   (0x33a0, "cm2"), (0x33a1, "m2"), (0x33a2, "km2"), (0x33a3, "mm3"), (0x33a4, "cm3"),
   (0x33a5, "m3"), (0x33a6, "km3"), (0x33a7, "m\u2215s"), (0x33a8, "m\u2215s2"), (0x33a9, "pa"),
   (0x33aa, "kpa"), (0x33ab, "mpa"), (0x33ac, "gpa"), (0x33ad, "rad"), (0x33ae, "rad\u2215s"),
   (0x33af, "rad\u2215s2"), (0x33b0, "ps"), (0x33b1, "ns"), (0x33b2, "\u03bcs"), (0x33b3, "ms"),
   (0x33b4, "pv"), (0x33b5, "nv"), (0x33b6, "\u03bcv"), (0x33b7, "mv"), (0x33b8, "kv"),
   (0x33b9, "mv"), (0x33ba, "pw"), (0x33bb, "nw"), (0x33bc, "\u03bcw"), (0x33bd, "mw"),
   (0x33be, "kw"), (0x33bf, "mw"), (0x33c0, "k\u03c9"), (0x33c1, "m\u03c9"), (0x33c3, "bq"),
   (0x33c4, "cc"), (0x33c5, "cd"), (0x33c6, "c\u2215kg"), (0x33c8, "db"), (0x33c9, "gy"),
   (0x33ca, "ha"), (0x33cb, "hp"), (0x33cc, "in"), (0x33cd, "kk"), (0x33ce, "km"), (0x33cf, "kt"),
   (0x33d0, "lm"), (0x33d1, "ln"), (0x33d2, "log"), (0x33d3, "lx"), (0x33d4, "mb"),
   (0x33d5, "mil"), (0x33d6, "mol"), (0x33d7, "ph"), (0x33d9, "ppm"), (0x33da, "pr"),
   (0x33db, "sr"), (0x33dc, "sv"), (0x33dd, "wb"), (0x33de, "v\u2215m"), (0x33df, "a\u2215m"),
   (0x33e0, "1\u65e5"), (0x33e1, "2\u65e5"), (0x33e2, "3\u65e5"), (0x33e3, "4\u65e5"),
   (0x33e4, "5\u65e5"), (0x33e5, "6\u65e5"), (0x33e6, "7\u65e5"), (0x33e7, "8\u65e5"),
   (0x33e8, "9\u65e5"), (0x33e9, "10\u65e5"), (0x33ea, "11\u65e5"), (0x33eb, "12\u65e5"),
   (0x33ec, "13\u65e5"), (0x33ed, "14\u65e5"), (0x33ee, "15\u65e5"), (0x33ef, "16\u65e5"),
   (0x33f0, "17\u65e5"), (0x33f1, "18\u65e5"), (0x33f2, "19\u65e5"), (0x33f3, "20\u65e5"),
   (0x33f4, "21\u65e5"), (0x33f5, "22\u65e5"), (0x33f6, "23\u65e5"), (0x33f7, "24\u65e5"),
   (0x33f8, "25\u65e5"), (0x33f9, "26\u65e5"), (0x33fa, "27\u65e5"), (0x33fb, "28\u65e5"),
   (0x33fc, "29\u65e5"), (0x33fd, "30\u65e5"), (0x33fe, "31\u65e5"), (0x33ff, "gal"),
   (0xfb00, "ff"), (0xfb01, "fi"), (0xfb02, "fl"), (0xfb03, "ffi"), (0xfb04, "ffl"),
   (0xfb05, "st"), (0xfb06, "st"), (0xfb1d, "\u05d9\u05b4"), (0xfb1f, "\u05f2\u05b7"),
   (0xfb2a, "\u05e9\u05c1"), (0xfb2b, "\u05e9\u05c2"), (0xfb2c, "\u05e9\u05bc\u05c1"),
   (0xfb2d, "\u05e9\u05bc\u05c2"), (0xfb2e, "\u05d0\u05b7"), (0xfb2f, "\u05d0\u05b8"),
   (0xfb30, "\u05d0\u05bc"), (0xfb31, "\u05d1\u05bc"), (0xfb32, "\u05d2\u05bc"),
   (0xfb33, "\u05d3\u05bc"), (0xfb34, "\u05d4\u05bc"), (0xfb35, "\u05d5\u05bc"),
   (0xfb36, "\u05d6\u05bc"), (0xfb38, "\u05d8\u05bc"), (0xfb39, "\u05d9\u05bc"),
   (0xfb3a, "\u05da\u05bc"), (0xfb3b, "\u05db\u05bc"), (0xfb3c, "\u05dc\u05bc"),
   (0xfb3e, "\u05de\u05bc"), (0xfb40, "\u05e0\u05bc"), (0xfb41, "\u05e1\u05bc"),
   (0xfb43, "\u05e3\u05bc"), (0xfb44, "\u05e4\u05bc"), (0xfb46, "\u05e6\u05bc"),
   (0xfb47, "\u05e7\u05bc"), (0xfb48, "\u05e8\u05bc"), (0xfb49, "\u05e9\u05bc"),
   (0xfb4a, "\u05ea\u05bc"), (0xfb4b, "\u05d5\u05b9"), (0xfb4c, "\u05d1\u05bf"),
   (0xfb4d, "\u05db\u05bf"), (0xfb4e, "\u05e4\u05bf"), (0xfbdd, "\u06c7\u0674"),
   (0xfbea, "\u0626\u0627"), (0xfbeb, "\u0626\u0627"), (0xfbec, "\u0626\u06d5"),
   (0xfbed, "\u0626\u06d5"), (0xfbee, "\u0626\u0648"), (0xfbef, "\u0626\u0648"),
   (0xfbf0, "\u0626\u06c7"), (0xfbf1, "\u0626\u06c7"), (0xfbf2, "\u0626\u06c6"),
   (0xfbf3, "\u0626\u06c6"), (0xfbf4, "\u0626\u06c8"), (0xfbf5, "\u0626\u06c8"),
   (0xfbf6, "\u0626\u06d0"), (0xfbf7, "\u0626\u06d0"), (0xfbf8, "\u0626\u06d0"),
   (0xfbf9, "\u0626\u0649"), (0xfbfa, "\u0626\u0649")]

private def arabicTexts : List (Nat × String) :=
  [(0xfbfb, "\u0626\u0649"), (0xfc00, "\u0626\u062c"), (0xfc01, "\u0626\u062d"),
   (0xfc02, "\u0626\u0645"), (0xfc03, "\u0626\u0649"), (0xfc04, "\u0626\u064a"),
   (0xfc05, "\u0628\u062c"), (0xfc06, "\u0628\u062d"), (0xfc07, "\u0628\u062e"),
   (0xfc08, "\u0628\u0645"), (0xfc09, "\u0628\u0649"), (0xfc0a, "\u0628\u064a"),
   (0xfc0b, "\u062a\u062c"), (0xfc0c, "\u062a\u062d"), (0xfc0d, "\u062a\u062e"),
   (0xfc0e, "\u062a\u0645"), (0xfc0f, "\u062a\u0649"), (0xfc10, "\u062a\u064a"),
   (0xfc11, "\u062b\u062c"), (0xfc12, "\u062b\u0645"), (0xfc13, "\u062b\u0649"),
   (0xfc14, "\u062b\u064a"), (0xfc15, "\u062c\u062d"), (0xfc16, "\u062c\u0645"),
   (0xfc17, "\u062d\u062c"), (0xfc18, "\u062d\u0645"), (0xfc19, "\u062e\u062c"),
   (0xfc1a, "\u062e\u062d"), (0xfc1b, "\u062e\u0645"), (0xfc1c, "\u0633\u062c"),
   (0xfc1d, "\u0633\u062d"), (0xfc1e, "\u0633\u062e"), (0xfc1f, "\u0633\u0645"),
   (0xfc20, "\u0635\u062d"), (0xfc21, "\u0635\u0645"), (0xfc22, "\u0636\u062c"),
   (0xfc23, "\u0636\u062d"), (0xfc24, "\u0636\u062e"), (0xfc25, "\u0636\u0645"),
   (0xfc26, "\u0637\u062d"), (0xfc27, "\u0637\u0645"), (0xfc28, "\u0638\u0645"),
   (0xfc29, "\u0639\u062c"), (0xfc2a, "\u0639\u0645"), (0xfc2b, "\u063a\u062c"),
   (0xfc2c, "\u063a\u0645"), (0xfc2d, "\u0641\u062c"), (0xfc2e, "\u0641\u062d"),
   (0xfc2f, "\u0641\u062e"), (0xfc30, "\u0641\u0645"), (0xfc31, "\u0641\u0649"),
   (0xfc32, "\u0641\u064a"), (0xfc33, "\u0642\u062d"), (0xfc34, "\u0642\u0645"),
   (0xfc35, "\u0642\u0649"), (0xfc36, "\u0642\u064a"), (0xfc37, "\u0643\u0627"),
   (0xfc38, "\u0643\u062c"), (0xfc39, "\u0643\u062d"), (0xfc3a, "\u0643\u062e"),
   (0xfc3b, "\u0643\u0644"), (0xfc3c, "\u0643\u0645"), (0xfc3d, "\u0643\u0649"),
   (0xfc3e, "\u0643\u064a"), (0xfc3f, "\u0644\u062c"), (0xfc40, "\u0644\u062d"),
   (0xfc41, "\u0644\u062e"), (0xfc42, "\u0644\u0645"), (0xfc43, "\u0644\u0649"),
   (0xfc44, "\u0644\u064a"), (0xfc45, "\u0645\u062c"), (0xfc46, "\u0645\u062d"),
   (0xfc47, "\u0645\u062e"), (0xfc48, "\u0645\u0645"), (0xfc49, "\u0645\u0649"),
   (0xfc4a, "\u0645\u064a"), (0xfc4b, "\u0646\u062c"), (0xfc4c, "\u0646\u062d"),
   (0xfc4d, "\u0646\u062e"), (0xfc4e, "\u0646\u0645"), (0xfc4f, "\u0646\u0649"),
   (0xfc50, "\u0646\u064a"), (0xfc51, "\u0647\u062c"), (0xfc52, "\u0647\u0645"),
   (0xfc53, "\u0647\u0649"), (0xfc54, "\u0647\u064a"), (0xfc55, "\u064a\u062c"),
   (0xfc56, "\u064a\u062d"), (0xfc57, "\u064a\u062e"), (0xfc58, "\u064a\u0645"),
   (0xfc59, "\u064a\u0649"), (0xfc5a, "\u064a\u064a"), (0xfc5b, "\u0630\u0670"),
   (0xfc5c, "\u0631\u0670"), (0xfc5d, "\u0649\u0670"), (0xfc64, "\u0626\u0631"),
   (0xfc65, "\u0626\u0632"), (0xfc66, "\u0626\u0645"), (0xfc67, "\u0626\u0646"),
   (0xfc68, "\u0626\u0649"), (0xfc69, "\u0626\u064a"), (0xfc6a, "\u0628\u0631"),
   (0xfc6b, "\u0628\u0632"), (0xfc6c, "\u0628\u0645"), (0xfc6d, "\u0628\u0646"),
   (0xfc6e, "\u0628\u0649"), (0xfc6f, "\u0628\u064a"), (0xfc70, "\u062a\u0631"),
   (0xfc71, "\u062a\u0632"), (0xfc72, "\u062a\u0645"), (0xfc73, "\u062a\u0646"),
   (0xfc74, "\u062a\u0649"), (0xfc75, "\u062a\u064a"), (0xfc76, "\u062b\u0631"),
   (0xfc77, "\u062b\u0632"), (0xfc78, "\u062b\u0645"), (0xfc79, "\u062b\u0646"),
   (0xfc7a, "\u062b\u0649"), (0xfc7b, "\u062b\u064a"), (0xfc7c, "\u0641\u0649"),
   (0xfc7d, "\u0641\u064a"), (0xfc7e, "\u0642\u0649"), (0xfc7f, "\u0642\u064a"),
   (0xfc80, "\u0643\u0627"), (0xfc81, "\u0643\u0644"), (0xfc82, "\u0643\u0645"),
   (0xfc83, "\u0643\u0649"), (0xfc84, "\u0643\u064a"), (0xfc85, "\u0644\u0645"),
   (0xfc86, "\u0644\u0649"), (0xfc87, "\u0644\u064a"), (0xfc88, "\u0645\u0627"),
   (0xfc89, "\u0645\u0645"), (0xfc8a, "\u0646\u0631"), (0xfc8b, "\u0646\u0632"),
   (0xfc8c, "\u0646\u0645"), (0xfc8d, "\u0646\u0646"), (0xfc8e, "\u0646\u0649"),
   (0xfc8f, "\u0646\u064a"), (0xfc90, "\u0649\u0670"), (0xfc91, "\u064a\u0631"),
   (0xfc92, "\u064a\u0632"), (0xfc93, "\u064a\u0645"), (0xfc94, "\u064a\u0646"),
   (0xfc95, "\u064a\u0649"), (0xfc96, "\u064a\u064a"), (0xfc97, "\u0626\u062c"),
   (0xfc98, "\u0626\u062d"), (0xfc99, "\u0626\u062e"), (0xfc9a, "\u0626\u0645"),
   (0xfc9b, "\u0626\u0647"), (0xfc9c, "\u0628\u062c"), (0xfc9d, "\u0628\u062d"),
   (0xfc9e, "\u0628\u062e"), (0xfc9f, "\u0628\u0645"), (0xfca0, "\u0628\u0647"),
   (0xfca1, "\u062a\u062c"), (0xfca2, "\u062a\u062d"), (0xfca3, "\u062a\u062e"),
   (0xfca4, "\u062a\u0645"), (0xfca5, "\u062a\u0647"), (0xfca6, "\u062b\u0645"),
   (0xfca7, "\u062c\u062d"), (0xfca8, "\u062c\u0645"), (0xfca9, "\u062d\u062c"),
   (0xfcaa, "\u062d\u0645"), (0xfcab, "\u062e\u062c"), (0xfcac, "\u062e\u0645"),
   (0xfcad, "\u0633\u062c"), (0xfcae, "\u0633\u062d"), (0xfcaf, "\u0633\u062e"),
   (0xfcb0, "\u0633\u0645"), (0xfcb1, "\u0635\u062d"), (0xfcb2, "\u0635\u062e"),
   (0xfcb3, "\u0635\u0645"), (0xfcb4, "\u0636\u062c"), (0xfcb5, "\u0636\u062d"),
   (0xfcb6, "\u0636\u062e"), (0xfcb7, "\u0636\u0645"), (0xfcb8, "\u0637\u062d"),
   (0xfcb9, "\u0638\u0645"), (0xfcba, "\u0639\u062c"), (0xfcbb, "\u0639\u0645"),
   (0xfcbc, "\u063a\u062c"), (0xfcbd, "\u063a\u0645"), (0xfcbe, "\u0641\u062c"),
   (0xfcbf, "\u0641\u062d"), (0xfcc0, "\u0641\u062e"), (0xfcc1, "\u0641\u0645"),
   (0xfcc2, "\u0642\u062d"), (0xfcc3, "\u0642\u0645"), (0xfcc4, "\u0643\u062c"),
   (0xfcc5, "\u0643\u062d"), (0xfcc6, "\u0643\u062e"), (0xfcc7, "\u0643\u0644"),
   (0xfcc8, "\u0643\u0645"), (0xfcc9, "\u0644\u062c"), (0xfcca, "\u0644\u062d"),
   (0xfccb, "\u0644\u062e"), (0xfccc, "\u0644\u0645"), (0xfccd, "\u0644\u0647"),
   (0xfcce, "\u0645\u062c"), (0xfccf, "\u0645\u062d"), (0xfcd0, "\u0645\u062e"),
   (0xfcd1, "\u0645\u0645"), (0xfcd2, "\u0646\u062c"), (0xfcd3, "\u0646\u062d"),
   (0xfcd4, "\u0646\u062e"), (0xfcd5, "\u0646\u0645"), (0xfcd6, "\u0646\u0647"),
   (0xfcd7, "\u0647\u062c"), (0xfcd8, "\u0647\u0645"), (0xfcd9, "\u0647\u0670"),
   (0xfcda, "\u064a\u062c"), (0xfcdb, "\u064a\u062d"), (0xfcdc, "\u064a\u062e"),
   (0xfcdd, "\u064a\u0645"), (0xfcde, "\u064a\u0647"), (0xfcdf, "\u0626\u0645"),
   (0xfce0, "\u0626\u0647"), (0xfce1, "\u0628\u0645"), (0xfce2, "\u0628\u0647"),
   (0xfce3, "\u062a\u0645"), (0xfce4, "\u062a\u0647"), (0xfce5, "\u062b\u0645"),
   (0xfce6, "\u062b\u0647"), (0xfce7, "\u0633\u0645"), (0xfce8, "\u0633\u0647"),
   (0xfce9, "\u0634\u0645"), (0xfcea, "\u0634\u0647"), (0xfceb, "\u0643\u0644"),
   (0xfcec, "\u0643\u0645"), (0xfced, "\u0644\u0645"), (0xfcee, "\u0646\u0645"),
   (0xfcef, "\u0646\u0647"), (0xfcf0, "\u064a\u0645"), (0xfcf1, "\u064a\u0647"),
   (0xfcf2, "\u0640\u064e\u0651"), (0xfcf3, "\u0640\u064f\u0651"), (0xfcf4, "\u0640\u0650\u0651"),
   (0xfcf5, "\u0637\u0649"), (0xfcf6, "\u0637\u064a"), (0xfcf7, "\u0639\u0649"),
   (0xfcf8, "\u0639\u064a"), (0xfcf9, "\u063a\u0649"), (0xfcfa, "\u063a\u064a"),
   (0xfcfb, "\u0633\u0649"), (0xfcfc, "\u0633\u064a"), (0xfcfd, "\u0634\u0649"),
   (0xfcfe, "\u0634\u064a"), (0xfcff, "\u062d\u0649"), (0xfd00, "\u062d\u064a"),
   (0xfd01, "\u062c\u0649"), (0xfd02, "\u062c\u064a"), (0xfd03, "\u062e\u0649"),
   (0xfd04, "\u062e\u064a"), (0xfd05, "\u0635\u0649")]

private def lateTexts : List (Nat × String) :=
  [(0xfd06, "\u0635\u064a"), (0xfd07, "\u0636\u0649"), (0xfd08, "\u0636\u064a"),
   (0xfd09, "\u0634\u062c"), (0xfd0a, "\u0634\u062d"), (0xfd0b, "\u0634\u062e"),
   (0xfd0c, "\u0634\u0645"), (0xfd0d, "\u0634\u0631"), (0xfd0e, "\u0633\u0631"),
   (0xfd0f, "\u0635\u0631"), (0xfd10, "\u0636\u0631"), (0xfd11, "\u0637\u0649"),
   (0xfd12, "\u0637\u064a"), (0xfd13, "\u0639\u0649"), (0xfd14, "\u0639\u064a"),
   (0xfd15, "\u063a\u0649"), (0xfd16, "\u063a\u064a"), (0xfd17, "\u0633\u0649"),
   (0xfd18, "\u0633\u064a"), (0xfd19, "\u0634\u0649"), (0xfd1a, "\u0634\u064a"),
   (0xfd1b, "\u062d\u0649"), (0xfd1c, "\u062d\u064a"), (0xfd1d, "\u062c\u0649"),
   (0xfd1e, "\u062c\u064a"), (0xfd1f, "\u062e\u0649"), (0xfd20, "\u062e\u064a"),
   (0xfd21, "\u0635\u0649"), (0xfd22, "\u0635\u064a"), (0xfd23, "\u0636\u0649"),
   (0xfd24, "\u0636\u064a"), (0xfd25, "\u0634\u062c"), (0xfd26, "\u0634\u062d"),
   (0xfd27, "\u0634\u062e"), (0xfd28, "\u0634\u0645"), (0xfd29, "\u0634\u0631"),
   (0xfd2a, "\u0633\u0631"), (0xfd2b, "\u0635\u0631"), (0xfd2c, "\u0636\u0631"),
   (0xfd2d, "\u0634\u062c"), (0xfd2e, "\u0634\u062d"), (0xfd2f, "\u0634\u062e"),
   (0xfd30, "\u0634\u0645"), (0xfd31, "\u0633\u0647"), (0xfd32, "\u0634\u0647"),
   (0xfd33, "\u0637\u0645"), (0xfd34, "\u0633\u062c"), (0xfd35, "\u0633\u062d"),
   (0xfd36, "\u0633\u062e"), (0xfd37, "\u0634\u062c"), (0xfd38, "\u0634\u062d"),
   (0xfd39, "\u0634\u062e"), (0xfd3a, "\u0637\u0645"), (0xfd3b, "\u0638\u0645"),
   (0xfd3c, "\u0627\u064b"), (0xfd3d, "\u0627\u064b"), (0xfd50, "\u062a\u062c\u0645"),
   (0xfd51, "\u062a\u062d\u062c"), (0xfd52, "\u062a\u062d\u062c"), (0xfd53, "\u062a\u062d\u0645"),
   (0xfd54, "\u062a\u062e\u0645"), (0xfd55, "\u062a\u0645\u062c"), (0xfd56, "\u062a\u0645\u062d"),
   (0xfd57, "\u062a\u0645\u062e"), (0xfd58, "\u062c\u0645\u062d"), (0xfd59, "\u062c\u0645\u062d"),
   (0xfd5a, "\u062d\u0645\u064a"), (0xfd5b, "\u062d\u0645\u0649"), (0xfd5c, "\u0633\u062d\u062c"),
   (0xfd5d, "\u0633\u062c\u062d"), (0xfd5e, "\u0633\u062c\u0649"), (0xfd5f, "\u0633\u0645\u062d"),
   (0xfd60, "\u0633\u0645\u062d"), (0xfd61, "\u0633\u0645\u062c"), (0xfd62, "\u0633\u0645\u0645"),
   (0xfd63, "\u0633\u0645\u0645"), (0xfd64, "\u0635\u062d\u062d"), (0xfd65, "\u0635\u062d\u062d"),
   (0xfd66, "\u0635\u0645\u0645"), (0xfd67, "\u0634\u062d\u0645"), (0xfd68, "\u0634\u062d\u0645"),
   (0xfd69, "\u0634\u062c\u064a"), (0xfd6a, "\u0634\u0645\u062e"), (0xfd6b, "\u0634\u0645\u062e"),
   (0xfd6c, "\u0634\u0645\u0645"), (0xfd6d, "\u0634\u0645\u0645"), (0xfd6e, "\u0636\u062d\u0649"),
   (0xfd6f, "\u0636\u062e\u0645"), (0xfd70, "\u0636\u062e\u0645"), (0xfd71, "\u0637\u0645\u062d"),
   (0xfd72, "\u0637\u0645\u062d"), (0xfd73, "\u0637\u0645\u0645"), (0xfd74, "\u0637\u0645\u064a"),
   (0xfd75, "\u0639\u062c\u0645"), (0xfd76, "\u0639\u0645\u0645"), (0xfd77, "\u0639\u0645\u0645"),
   (0xfd78, "\u0639\u0645\u0649"), (0xfd79, "\u063a\u0645\u0645"), (0xfd7a, "\u063a\u0645\u064a"),
   (0xfd7b, "\u063a\u0645\u0649"), (0xfd7c, "\u0641\u062e\u0645"), (0xfd7d, "\u0641\u062e\u0645"),
   (0xfd7e, "\u0642\u0645\u062d"), (0xfd7f, "\u0642\u0645\u0645"), (0xfd80, "\u0644\u062d\u0645"),
   (0xfd81, "\u0644\u062d\u064a"), (0xfd82, "\u0644\u062d\u0649"), (0xfd83, "\u0644\u062c\u062c"),
   (0xfd84, "\u0644\u062c\u062c"), (0xfd85, "\u0644\u062e\u0645"), (0xfd86, "\u0644\u062e\u0645"),
   (0xfd87, "\u0644\u0645\u062d"), (0xfd88, "\u0644\u0645\u062d"), (0xfd89, "\u0645\u062d\u062c"),
   (0xfd8a, "\u0645\u062d\u0645"), (0xfd8b, "\u0645\u062d\u064a"), (0xfd8c, "\u0645\u062c\u062d"),
   (0xfd8d, "\u0645\u062c\u0645"), (0xfd8e, "\u0645\u062e\u062c"), (0xfd8f, "\u0645\u062e\u0645"),
   (0xfd92, "\u0645\u062c\u062e"), (0xfd93, "\u0647\u0645\u062c"), (0xfd94, "\u0647\u0645\u0645"),
   (0xfd95, "\u0646\u062d\u0645"), (0xfd96, "\u0646\u062d\u0649"), (0xfd97, "\u0646\u062c\u0645"),
   (0xfd98, "\u0646\u062c\u0645"), (0xfd99, "\u0646\u062c\u0649"), (0xfd9a, "\u0646\u0645\u064a"),
   (0xfd9b, "\u0646\u0645\u0649"), (0xfd9c, "\u064a\u0645\u0645"), (0xfd9d, "\u064a\u0645\u0645"),
   (0xfd9e, "\u0628\u062e\u064a"), (0xfd9f, "\u062a\u062c\u064a"), (0xfda0, "\u062a\u062c\u0649"),
   (0xfda1, "\u062a\u062e\u064a"), (0xfda2, "\u062a\u062e\u0649"), (0xfda3, "\u062a\u0645\u064a"),
   (0xfda4, "\u062a\u0645\u0649"), (0xfda5, "\u062c\u0645\u064a"), (0xfda6, "\u062c\u062d\u0649"),
   (0xfda7, "\u062c\u0645\u0649"), (0xfda8, "\u0633\u062e\u0649"), (0xfda9, "\u0635\u062d\u064a"),
   (0xfdaa, "\u0634\u062d\u064a"), (0xfdab, "\u0636\u062d\u064a"), (0xfdac, "\u0644\u062c\u064a"),
   (0xfdad, "\u0644\u0645\u064a"), (0xfdae, "\u064a\u062d\u064a"), (0xfdaf, "\u064a\u062c\u064a"),
   (0xfdb0, "\u064a\u0645\u064a"), (0xfdb1, "\u0645\u0645\u064a"), (0xfdb2, "\u0642\u0645\u064a"),
   (0xfdb3, "\u0646\u062d\u064a"), (0xfdb4, "\u0642\u0645\u062d"), (0xfdb5, "\u0644\u062d\u0645"),
   (0xfdb6, "\u0639\u0645\u064a"), (0xfdb7, "\u0643\u0645\u064a"), (0xfdb8, "\u0646\u062c\u062d"),
   (0xfdb9, "\u0645\u062e\u064a"), (0xfdba, "\u0644\u062c\u0645"), (0xfdbb, "\u0643\u0645\u0645"),
   (0xfdbc, "\u0644\u062c\u0645"), (0xfdbd, "\u0646\u062c\u062d"), (0xfdbe, "\u062c\u062d\u064a"),
   (0xfdbf, "\u062d\u062c\u064a"), (0xfdc0, "\u0645\u062c\u064a"), (0xfdc1, "\u0641\u0645\u064a"),
   (0xfdc2, "\u0628\u062d\u064a"), (0xfdc3, "\u0643\u0645\u0645"), (0xfdc4, "\u0639\u062c\u0645"),
   (0xfdc5, "\u0635\u0645\u0645"), (0xfdc6, "\u0633\u062e\u064a"), (0xfdc7, "\u0646\u062c\u064a"),
   (0xfdf0, "\u0635\u0644\u06d2"), (0xfdf1, "\u0642\u0644\u06d2"),
   (0xfdf2, "\u0627\u0644\u0644\u0647"), (0xfdf3, "\u0627\u0643\u0628\u0631"),
   (0xfdf4, "\u0645\u062d\u0645\u062f"), (0xfdf5, "\u0635\u0644\u0639\u0645"),
   (0xfdf6, "\u0631\u0633\u0648\u0644"), (0xfdf7, "\u0639\u0644\u064a\u0647"),
   (0xfdf8, "\u0648\u0633\u0644\u0645"), (0xfdf9, "\u0635\u0644\u0649"),
   (0xfdfc, "\u0631\u06cc\u0627\u0644"), (0xfe71, "\u0640\u064b"), (0xfe77, "\u0640\u064e"),
   (0xfe79, "\u0640\u064f"), (0xfe7b, "\u0640\u0650"), (0xfe7d, "\u0640\u0651"),
   (0xfe7f, "\u0640\u0652"), (0xfef5, "\u0644\u0622"), (0xfef6, "\u0644\u0622"),
   (0xfef7, "\u0644\u0623"), (0xfef8, "\u0644\u0623"), (0xfef9, "\u0644\u0625"),
   (0xfefa, "\u0644\u0625"), (0xfefb, "\u0644\u0627"), (0xfefc, "\u0644\u0627"), (0x1f101, "0,"),
   (0x1f102, "1,"), (0x1f103, "2,"), (0x1f104, "3,"), (0x1f105, "4,"), (0x1f106, "5,"),
   (0x1f107, "6,"), (0x1f108, "7,"), (0x1f109, "8,"), (0x1f10a, "9,"), (0x1f110, "(a)"),
   (0x1f111, "(b)"), (0x1f112, "(c)"), (0x1f113, "(d)"), (0x1f114, "(e)"), (0x1f115, "(f)"),
   (0x1f116, "(g)"), (0x1f117, "(h)"), (0x1f118, "(i)"), (0x1f119, "(j)"), (0x1f11a, "(k)"),
   (0x1f11b, "(l)"), (0x1f11c, "(m)"), (0x1f11d, "(n)"), (0x1f11e, "(o)"), (0x1f11f, "(p)"),
   (0x1f120, "(q)"), (0x1f121, "(r)"), (0x1f122, "(s)"), (0x1f123, "(t)"), (0x1f124, "(u)"),
   (0x1f125, "(v)"), (0x1f126, "(w)"), (0x1f127, "(x)"), (0x1f128, "(y)"), (0x1f129, "(z)"),
   (0x1f12a, "\u3014s\u3015"), (0x1f12d, "cd"), (0x1f12e, "wz"), (0x1f14a, "hv"), (0x1f14b, "mv"),
   (0x1f14c, "sd"), (0x1f14d, "ss"), (0x1f14e, "ppv"), (0x1f14f, "wc"), (0x1f16a, "mc"),
   (0x1f16b, "md"), (0x1f16c, "mr"), (0x1f190, "dj"), (0x1f240, "\u3014\u672c\u3015"),
   (0x1f241, "\u3014\u4e09\u3015"), (0x1f242, "\u3014\u4e8c\u3015"),
   (0x1f243, "\u3014\u5b89\u3015"), (0x1f244, "\u3014\u70b9\u3015"),
   (0x1f245, "\u3014\u6253\u3015"), (0x1f246, "\u3014\u76d7\u3015"),
   (0x1f247, "\u3014\u52dd\u3015"), (0x1f248, "\u3014\u6557\u3015")]

/-- Characters that stand for several others. -/
def replacedTexts : List (Nat × String) :=
  lowTexts ++ squareTexts ++ arabicTexts ++ lateTexts

end Depository.Web
